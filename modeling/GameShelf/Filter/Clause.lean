import GameShelf.Filter.Operator
import GameShelf.Filter.Suggestion

namespace GameShelf

/-- `column operator literal`. The literal is kept as written and read by the predicate. -/
structure Clause where
  column : Column
  operator : Operator
  literal : String
deriving DecidableEq

/-- Why a text is no clause. -/
inductive ClauseError
  | empty
  | missingOperator (clause : String)
  | malformed (clause : String)
  | unknownColumn (title : String) (suggestion : Option Column)
deriving DecidableEq

def ClauseError.message : ClauseError → String
  | empty => "filter clause is empty"
  | missingOperator clause =>
    "no operator found in '" ++ clause ++ "' (expected one of ==, !=, ~=, >=, <=, >, <)"
  | malformed clause =>
    "malformed clause '" ++ clause ++ "' (expected <column><operator><value>)"
  | unknownColumn title none => "unknown column '" ++ title ++ "'"
  | unknownColumn title (some column) =>
    "unknown column '" ++ title ++ "'. Did you mean '" ++ column.title ++ "'?"

namespace Clause

/-- The clause without white space between its parts. -/
def canonical (clause : Clause) : String :=
  clause.column.title ++ clause.operator.token ++ clause.literal

/-- The trimmed texts on both sides of the only occurrence of `token`, if neither is empty. -/
def sides? (token text : List Char) : Option (String × String) :=
  match Text.splitFirst token text with
  | none => none
  | some (left, right) =>
    let title := Text.trimmed left
    let literal := Text.trimmed right
    if Text.occursIn token right || title.isEmpty || literal.isEmpty then none
    else some (String.ofList title, String.ofList literal)

/-- Reads one clause. -/
def parse (text : String) : Except ClauseError Clause :=
  let clause := Text.trimmed text.toList
  if clause.isEmpty then .error .empty
  else match Operator.detect? clause with
    | none => .error (.missingOperator (String.ofList clause))
    | some operator =>
      match sides? operator.token.toList clause with
      | none => .error (.malformed (String.ofList clause))
      | some (title, literal) =>
        match Column.ofTitle? title with
        | none => .error (.unknownColumn title (Column.suggest? title))
        | some column => .ok ⟨column, operator, literal⟩

/-- The texts between the commas of an expression. -/
def segments (expression : String) : List String :=
  (expression.toList.splitOn ',').map String.ofList

/-- Reads every clause of an expression, in order. -/
def parseAll (expression : String) : List (Except ClauseError Clause) :=
  (segments expression).map parse

end Clause

end GameShelf
