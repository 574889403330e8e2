import GameShelf.Text.LetterCase

namespace GameShelf.Text

/-- The lower-case form of a character that stands alone. -/
def lowerLetter (c : Char) : List Char :=
  if c.toNat < 0x80 then [c.toLower]
  else if c = 'İ' then ['i', '\u0307']
  else match caseRuns.find? (·.holds c.toNat) with
    | some run => [Char.ofNat (run.lowerOf c.toNat)]
    | none => [c]

/-- Whether the first character that is not case-ignorable is a cased letter. -/
def meetsCased (cs : List Char) : Bool :=
  match cs.dropWhile isCaseIgnorable with
  | [] => false
  | c :: _ => isCased c

/-- The lower-case form of `c` with `before` (nearest first) on its left and `after` on its right.
A sigma is final if a letter comes before it and none after it. -/
def lowerBetween (before : List Char) (c : Char) (after : List Char) : List Char :=
  if c = 'Σ' then
    if meetsCased before && !meetsCased after then ['ς'] else ['σ']
  else lowerLetter c

def lowerFrom (before : List Char) : List Char → List Char
  | [] => []
  | c :: after => lowerBetween before c after ++ lowerFrom (c :: before) after

def lowered (cs : List Char) : List Char :=
  lowerFrom [] cs

/-- `text` in lower case. -/
def lower (text : String) : String :=
  String.ofList (lowered text.toList)

/-- Equality up to the case of the letters A to Z. -/
def sameIgnoringAsciiCase (a b : String) : Bool :=
  a.toList.map Char.toLower == b.toList.map Char.toLower

/-- The order of texts by their first differing code point. -/
def order (a b : String) : Ordering :=
  compare a.toList b.toList

theorem toList_lower (text : String) : (lower text).toList = lowered text.toList :=
  String.toList_ofList

end GameShelf.Text
