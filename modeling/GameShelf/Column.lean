import GameShelf.Binary64.Rounding
import GameShelf.Game
import GameShelf.Text.Blank
import GameShelf.Text.Lowercase

namespace GameShelf

inductive Column
  | name
  | rating
  | difficulty
  | rank
  | minPlayers
  | maxPlayers
  | minTime
  | maxTime
  | year
deriving DecidableEq, Repr

/-- Whether a column holds text or numbers. -/
inductive Column.Kind
  | text
  | number
deriving DecidableEq

/-- What a column holds for one game. Whole numbers are widened to doubles, without loss. -/
inductive Column.Value
  | text (value : String)
  | number (value : Binary64)
deriving DecidableEq

namespace Column

/-- Every column, in catalog order. -/
def all : List Column :=
  [name, rating, difficulty, rank, minPlayers, maxPlayers, minTime, maxTime, year]

def title : Column → String
  | name => "name"
  | rating => "rating"
  | difficulty => "difficulty"
  | rank => "rank"
  | minPlayers => "minPlayers"
  | maxPlayers => "maxPlayers"
  | minTime => "minTime"
  | maxTime => "maxTime"
  | year => "year"

def kind : Column → Kind
  | name => .text
  | _ => .number

/-- The column with this title, up to white space around it and the case of its letters. -/
def ofTitle? (text : String) : Option Column :=
  all.find? fun column => Text.sameIgnoringAsciiCase column.title (Text.trim text)

/-- The message for a text that is no title. -/
def unknownMessage (text : String) : String :=
  "unknown column: " ++ Text.trim text

/-- Reads the title of a column. -/
def read (text : String) : Except String Column :=
  match ofTitle? text with
  | some column => .ok column
  | none => .error (unknownMessage text)

def value (column : Column) (game : Game) : Value :=
  match column with
  | name => .text game.name
  | rating => .number game.rating
  | difficulty => .number game.difficulty
  | rank => .number (.ofNat game.rank.toNat)
  | minPlayers => .number (.ofNat game.minPlayers.toNat)
  | maxPlayers => .number (.ofNat game.maxPlayers.toNat)
  | minTime => .number (.ofNat game.minPlayTime.toNat)
  | maxTime => .number (.ofNat game.maxPlayTime.toNat)
  | year => .number (.ofInt game.yearPublished.toInt)

theorem mem_all (column : Column) : column ∈ all := by
  cases column <;> decide

end Column

end GameShelf
