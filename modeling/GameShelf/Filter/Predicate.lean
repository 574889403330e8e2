import GameShelf.Binary64.Decimal
import GameShelf.Filter.Clause

namespace GameShelf

/-- The test on games that a clause stands for. A numeric column with a literal that is no number
rejects every game, so that a typing error lets nothing through; an operator without a meaning on
its column accepts every game. -/
inductive Predicate
  | text (column : Column) (operator : Operator) (needle : String)
  | number (column : Column) (operator : Operator) (value : Binary64)
  | rejectAll (column : Column) (literal : String)
  | unsupported (column : Column) (operator : Operator)
deriving DecidableEq

namespace Predicate

/-- The effect of a predicate on any list of games. -/
inductive Outcome
  | filtering
  | rejectAll
  | acceptAll
deriving DecidableEq

def ofClause (clause : Clause) : Predicate :=
  match clause.column.kind with
  | .text => text clause.column clause.operator (Text.lower clause.literal)
  | .number =>
    match Binary64.ofText? clause.literal with
    | none => rejectAll clause.column clause.literal
    | some value =>
      if clause.operator.isOrdering then number clause.column clause.operator value
      else unsupported clause.column clause.operator

def outcome : Predicate → Outcome
  | text .. => .filtering
  | number .. => .filtering
  | rejectAll .. => .rejectAll
  | unsupported .. => .acceptAll

def column : Predicate → Column
  | text column .. => column
  | number column .. => column
  | rejectAll column _ => column
  | unsupported column _ => column

/-- The comparison of two texts in lower case. -/
def matchesText (operator : Operator) (needle actual : String) : Bool :=
  match operator with
  | .contains => Text.occursIn needle.toList actual.toList
  | _ => operator.accepts (some (Text.order actual needle))

/-- Whether a game passes. A predicate over a column of the other kind lets none through. -/
def accepts (predicate : Predicate) (game : Game) : Bool :=
  match predicate with
  | text column operator needle =>
    match column.value game with
    | .text actual => matchesText operator needle (Text.lower actual)
    | .number _ => false
  | number column operator value =>
    match column.value game with
    | .text _ => false
    | .number actual => operator.accepts (actual.partialOrder value)
  | rejectAll .. => false
  | unsupported .. => true

end Predicate

def Clause.predicate (clause : Clause) : Predicate :=
  .ofClause clause

end GameShelf
