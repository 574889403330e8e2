namespace GameShelf

inductive Ink
  | cyan
  | green
  | red
  | dimmed
  | bold
deriving DecidableEq

namespace Ink

/-- The number that turns the ink on. -/
def onCode : Ink → String
  | cyan => "36"
  | green => "32"
  | red => "31"
  | dimmed => "2"
  | bold => "1"

/-- The number that turns it off: colours leave the weight as it is. -/
def offCode : Ink → String
  | cyan => "39"
  | green => "39"
  | red => "39"
  | dimmed => "0"
  | bold => "0"

def sequence (code : String) : String :=
  "\x1b[" ++ code ++ "m"

def paint (ink : Ink) (text : String) : String :=
  sequence ink.onCode ++ text ++ sequence ink.offCode

/-- The text in this ink, if colours are on. -/
def paintIf (colors : Bool) (ink : Ink) (text : String) : String :=
  if colors then ink.paint text else text

end Ink

end GameShelf
