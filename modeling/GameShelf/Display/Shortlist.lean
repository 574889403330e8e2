import GameShelf.Display.Cell
import GameShelf.Json.Basic

namespace GameShelf.Display

/-- The lines of names, numbered from `index` on. -/
def nameLines (index : Nat) : List String → String
  | [] => ""
  | name :: names =>
    Text.padLeft 4 (toString index) ++ "  " ++ name ++ "\n" ++ nameLines (index + 1) names

def shortlistTable (colors : Bool) (names : List String) : String :=
  if names.isEmpty then "Game list is empty.\n"
  else
    Cell.header colors ("Game list (" ++ toString names.length ++ ")") ++ nameLines 1 names

def shortlistJson (names : List String) : Json :=
  .ofMembers [("count", .ofNat names.length), ("games", .array (names.map Json.ofString))]

end GameShelf.Display
