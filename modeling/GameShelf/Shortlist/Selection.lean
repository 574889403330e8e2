import GameShelf.Text.Digits
import GameShelf.Text.Lowercase
import GameShelf.Text.Splitting

namespace GameShelf

/-- Why a change of the list failed, or writing it did. -/
inductive ShortlistError
  | emptyInput
  | noCandidates
  | emptyList
  | indexOutOfRange (index len : Nat)
  | invalidRange (first last : Nat)
  | rangeStartOutOfBounds (first len : Nat)
  | invalidFormat (input : String)
  | writeFailed (cause : String)
  | saveFailed (path cause : String)
deriving DecidableEq

def ShortlistError.message : ShortlistError → String
  | emptyInput => "no game, index or range given"
  | noCandidates => "no games available to add"
  | emptyList => "the game list is empty"
  | indexOutOfRange index len =>
    "index out of bounds: " ++ toString index ++ " (expected 1-" ++ toString len ++ ")"
  | invalidRange first last =>
    "invalid range values: " ++ toString first ++ "-" ++ toString last
  | rangeStartOutOfBounds first len =>
    "start index out of bounds: " ++ toString first ++ " (only " ++ toString len ++ " games)"
  | invalidFormat input => "invalid format: " ++ input
  | writeFailed cause => "failed to write game list: " ++ cause
  | saveFailed path cause => "failed to write game list '" ++ path ++ "': " ++ cause

/-- The positions from `start` on and before `stop`, counted from 0. -/
structure Block where
  start : Nat
  stop : Nat
deriving DecidableEq

namespace Block

def size (block : Block) : Nat :=
  block.stop - block.start

/-- The members of a row at these positions. -/
def of {α : Type} (block : Block) (row : List α) : List α :=
  (row.drop block.start).take block.size

end Block

namespace Selection

/-- The word for everything. -/
def isAll (word : String) : Bool :=
  Text.sameIgnoringAsciiCase word "all"

/-- `first-last`, counted from 1. -/
def readRange? (word : List Char) : Option (Nat × Nat) :=
  match Text.splitFirst ['-'] word with
  | none => none
  | some (first, last) =>
    match readWord? first, readWord? last with
    | some first, some last => some (first, last)
    | _, _ => none

/-- The first name that is the word, up to letter case. -/
def findName? (word : String) (names : List String) : Option Nat :=
  names.findIdx? fun name => Text.lower name == Text.lower word

/-- The positions that a word picks by number from a row of `len` names. A range may run past the
end of the row, but not begin there. -/
def resolveNumber (word : String) (len : Nat) : Except ShortlistError Block :=
  match readRange? word.toList with
  | some (first, last) =>
    if first = 0 || last < first then .error (.invalidRange first last)
    else if len < first then .error (.rangeStartOutOfBounds first len)
    else .ok ⟨first - 1, min last len⟩
  | none =>
    match readWord? word.toList with
    | some index =>
      if index = 0 || len < index then .error (.indexOutOfRange index len)
      else .ok ⟨index - 1, index⟩
    | none => .error (.invalidFormat word)

/-- The positions that a word picks from a row of names. A name comes before a number, so a game
that is called `1` can be picked by its name. -/
def resolve (word : String) (names : List String) : Except ShortlistError Block :=
  match findName? word names with
  | some i => .ok ⟨i, i + 1⟩
  | none => resolveNumber word names.length

end Selection

end GameShelf
