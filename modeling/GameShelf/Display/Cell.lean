import GameShelf.Binary64.Shortest
import GameShelf.Display.Ink
import GameShelf.Text.Width

namespace GameShelf.Cell

/-- A score to one decimal place; a NaN is a dash. -/
def score (x : Binary64) : String :=
  if x.isNaN then "-"
  else if x.isFinite then x.tenths
  else if x.negative then "-inf"
  else "inf"

/-- The ends of a range, or the one number at which both are. -/
def range (least most : UInt32) : String :=
  if least = most then toString least.toNat
  else toString least.toNat ++ "-" ++ toString most.toNat

/-- The ink of a rating: green from 8 on, dimmed below 5. -/
def ratingInk? (x : Binary64) : Option Ink :=
  if x.partialOrder (.ofNat 8) = some .gt || x.partialOrder (.ofNat 8) = some .eq then some .green
  else if x.partialOrder (.ofNat 5) = some .lt then some .dimmed
  else none

/-- A rating, as a score in its ink. -/
def rating (colors : Bool) (x : Binary64) : String :=
  match colors, ratingInk? x with
  | true, some ink => ink.paint (score x)
  | _, _ => score x

/-- A line above a table. -/
def header (colors : Bool) (text : String) : String :=
  Ink.dimmed.paintIf colors text ++ "\n"

end GameShelf.Cell
