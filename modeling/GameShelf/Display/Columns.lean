import GameShelf.Column
import GameShelf.Display.Cell
import GameShelf.Filter.Operator
import GameShelf.Json.Basic

namespace GameShelf.Display

def kindName : Column.Kind → String
  | .text => "text"
  | .number => "number"

/-- The order in which operators are shown. -/
def shownOperators : List Operator :=
  [.equals, .notEquals, .contains, .greater, .greaterOrEqual, .less, .lessOrEqual]

/-- The operators for a kind of column: only a text can contain another. -/
def operatorsOf (kind : Column.Kind) : List Operator :=
  shownOperators.filter fun operator => kind = .text || operator.isOrdering

def operatorsText (kind : Column.Kind) : String :=
  " ".intercalate ((operatorsOf kind).map Operator.token)

def columnLine (column kind operators : String) : String :=
  Text.padRight 12 column ++ " " ++ Text.padRight 8 kind ++ " " ++ operators

def columnsTable (colors : Bool) : String :=
  Cell.header colors (columnLine "Column" "Kind" "Operators") ++
    String.join (Column.all.map fun column =>
      columnLine column.title (kindName column.kind) (operatorsText column.kind) ++ "\n")

def columnsJson : Json :=
  .array (Column.all.map fun column => .ofMembers [
    ("column", .ofString column.title), ("kind", .ofString (kindName column.kind)),
    ("operators", .ofString (operatorsText column.kind))])

end GameShelf.Display
