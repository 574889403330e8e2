import GameShelf.Column
import GameShelf.Text.EditDistance

namespace GameShelf.Column

/-- How far a title is from a column's, both in lower case. -/
def distance (text : String) (column : Column) : Nat :=
  Text.editDistance (Text.lowered text.toList) (Text.lowered column.title.toList)

/-- The first column in catalog order at the least distance from `text`. -/
def nearest (text : String) : Column :=
  all.foldl (fun best column => if distance text column < distance text best then column else best)
    name

/-- The nearest column, if one to three edits lead to it. -/
def suggest? (text : String) : Option Column :=
  let best := nearest text
  let edits := distance text best
  if 0 < edits && edits ≤ 3 then some best else none

end GameShelf.Column
