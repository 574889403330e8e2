import GameShelf.Column

namespace GameShelf

structure SortOrder where
  column : Column
  ascending : Bool
deriving DecidableEq

namespace SortOrder

/-- By name, from A to Z. -/
def standard : SortOrder :=
  ⟨.name, true⟩

instance : Inhabited SortOrder :=
  ⟨standard⟩

/-- The order by the column with this title; by name ascending if there is none. -/
def ofTitle (title : String) (ascending : Bool) : SortOrder :=
  match Column.ofTitle? title with
  | some column => ⟨column, ascending⟩
  | none => standard

def reversed (order : SortOrder) : SortOrder :=
  { order with ascending := !order.ascending }

/-- Texts are compared in lower case and numbers by the total order of doubles, so any two games can
be compared. -/
def compareValues : Column.Value → Column.Value → Ordering
  | .number x, .number y => x.totalOrder y
  | .text x, .text y => Text.order (Text.lower x) (Text.lower y)
  | _, _ => .eq

/-- The place of `a` before or after `b`. Descending swaps the whole comparison. -/
def compare (order : SortOrder) (a b : Game) : Ordering :=
  let ordering := compareValues (order.column.value a) (order.column.value b)
  if order.ascending then ordering else ordering.swap

/-- The games in this order; a stable sort. -/
def sort (order : SortOrder) (games : List Game) : List Game :=
  games.mergeSort fun a b => (order.compare a b).isLE

/-- The order a command asks for: an explicit title, or else the default, which `descending`
turns. An unknown title sorts by name ascending whatever the direction. -/
def resolve (title : Option String) (descending : Bool) (default : SortOrder) : SortOrder :=
  match title with
  | some title => ofTitle title (!descending)
  | none => if descending then ⟨default.column, false⟩ else default

end SortOrder

end GameShelf
