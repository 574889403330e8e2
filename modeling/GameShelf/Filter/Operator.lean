import GameShelf.Text.Splitting

namespace GameShelf

inductive Operator
  | equals
  | notEquals
  | contains
  | greaterOrEqual
  | lessOrEqual
  | greater
  | less
deriving DecidableEq, Repr

namespace Operator

/-- Every operator, in the order in which a clause is searched for them: a token comes before those
it begins with. -/
def all : List Operator :=
  [equals, notEquals, contains, greaterOrEqual, lessOrEqual, greater, less]

def token : Operator → String
  | equals => "=="
  | notEquals => "!="
  | contains => "~="
  | greaterOrEqual => ">="
  | lessOrEqual => "<="
  | greater => ">"
  | less => "<"

/-- The outcomes on which the operator holds; `none` is a comparison with a NaN. -/
def accepted : Operator → List (Option Ordering)
  | equals => [some .eq]
  | notEquals => [some .lt, some .gt, none]
  | contains => []
  | greaterOrEqual => [some .gt, some .eq]
  | lessOrEqual => [some .lt, some .eq]
  | greater => [some .gt]
  | less => [some .lt]

def accepts (operator : Operator) (outcome : Option Ordering) : Bool :=
  operator.accepted.contains outcome

/-- Whether the operator looks at the order of two values at all. -/
def isOrdering (operator : Operator) : Bool :=
  !operator.accepted.isEmpty

/-- The first operator whose token occurs anywhere in the clause. -/
def detect? (clause : List Char) : Option Operator :=
  all.find? fun operator => Text.occursIn operator.token.toList clause

theorem mem_all (operator : Operator) : operator ∈ all := by
  cases operator <;> decide

end Operator

end GameShelf
