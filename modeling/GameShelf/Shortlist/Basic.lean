import GameShelf.Game
import GameShelf.Shortlist.Selection
import GameShelf.Text.Blank

namespace GameShelf

/-- A listed name, with the lower-case form by which it is found. -/
structure Shortlist.Entry where
  key : String
  name : String
deriving DecidableEq

/-- The entries stand in ascending order of their keys, and of names with one key the spelling that
came first is kept. -/
structure Shortlist where
  entries : List Shortlist.Entry
deriving DecidableEq

namespace Shortlist

/-- The list after a call, and how many names the call added or removed, or why it failed. -/
abbrev Change :=
  Shortlist × Except ShortlistError Nat

def empty : Shortlist :=
  ⟨[]⟩

def names (list : Shortlist) : List String :=
  list.entries.map Entry.name

def count (list : Shortlist) : Nat :=
  list.entries.length

def isEmpty (list : Shortlist) : Bool :=
  list.entries.isEmpty

def contains (list : Shortlist) (name : String) : Bool :=
  list.entries.any (·.key == Text.lower name)

/-- Puts an entry at the place of its key, over the entry that has the key already. -/
def insertEntry (entry : Entry) : List Entry → List Entry
  | [] => [entry]
  | other :: entries =>
    match Text.order entry.key other.key with
    | .lt => entry :: other :: entries
    | .eq => entry :: entries
    | .gt => other :: insertEntry entry entries

/-- Lists a name and adds one to the count of new names, unless it is listed already. -/
def insert (state : Shortlist × Nat) (name : String) : Shortlist × Nat :=
  if state.1.contains name then state
  else (⟨insertEntry ⟨Text.lower name, name⟩ state.1.entries⟩, state.2 + 1)

def insertAll (list : Shortlist) (names : List String) : Shortlist × Nat :=
  names.foldl insert (list, 0)

/-- Drops the name that is equal to `name` up to letter case. -/
def erase (list : Shortlist) (name : String) : Shortlist :=
  ⟨list.entries.filter (·.key != Text.lower name)⟩

/-- Lists names in turn, and says how many were new. -/
def enlist (list : Shortlist) (names : List String) : Change :=
  let (list, added) := list.insertAll names
  (list, .ok added)

/-- Adds the games that a selection picks from the candidates. Counts the names that are new. -/
def addFrom (list : Shortlist) (selection : String) (candidates : List Game) : Change :=
  let word := Text.trim selection
  let names := candidates.map Game.name
  if word.isEmpty then (list, .error .emptyInput)
  else if candidates.isEmpty then (list, .error .noCandidates)
  else if Selection.isAll word then list.enlist names
  else match Selection.resolve word names with
    | .error error => (list, .error error)
    | .ok block => list.enlist (block.of names)

/-- Removes the names that a selection picks from the list. Counts them all. -/
def strike (list : Shortlist) (selection : String) : Change :=
  let word := Text.trim selection
  if word.isEmpty then (list, .error .emptyInput)
  else if Selection.isAll word then (empty, .ok list.count)
  else if list.isEmpty then (list, .error .emptyList)
  else match Selection.resolve word list.names with
    | .error error => (list, .error error)
    | .ok block => ((block.of list.names).foldl erase list, .ok block.size)

/-- What a call led to: the new list and its count, or the error alone. -/
def Change.result : Change → Except ShortlistError (Shortlist × Nat)
  | (list, .ok n) => .ok (list, n)
  | (_, .error error) => .error error

def add (list : Shortlist) (selection : String) (candidates : List Game) :
    Except ShortlistError (Shortlist × Nat) :=
  (list.addFrom selection candidates).result

def remove (list : Shortlist) (selection : String) : Except ShortlistError (Shortlist × Nat) :=
  (list.strike selection).result

end Shortlist

end GameShelf
