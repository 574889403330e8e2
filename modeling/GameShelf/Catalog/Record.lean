import GameShelf.Catalog.Score
import GameShelf.Game
import GameShelf.Json.Reader

namespace GameShelf

namespace Record

/-- The names of the members, in order. -/
def keys : List String :=
  ["name", "id", "min_players", "max_players", "min_play_time", "max_play_time", "difficulty",
    "rank", "rating", "year_published"]

def members (game : Game) : List (String × Json) :=
  [("name", .ofString game.name), ("id", .ofNat game.id.toNat),
    ("min_players", .ofNat game.minPlayers.toNat), ("max_players", .ofNat game.maxPlayers.toNat),
    ("min_play_time", .ofNat game.minPlayTime.toNat),
    ("max_play_time", .ofNat game.maxPlayTime.toNat), ("difficulty", .ofBinary64 game.difficulty),
    ("rank", .ofNat game.rank.toNat), ("rating", .ofBinary64 game.rating),
    ("year_published", .ofInt game.yearPublished.toInt)]

def toJson (game : Game) : Json :=
  .ofMembers (members game)

def readText? : Json → Option String
  | .string content => content
  | _ => none

/-- An integer, which must be written as one. A zero has no minus sign. -/
def readInt? : Json → Option Int
  | .number n =>
    let size := digitsValue n.whole
    if !n.isInteger || (n.negative && size = 0) then none
    else some (if n.negative then -(size : Int) else size)
  | _ => none

def readUInt32? (json : Json) : Option UInt32 :=
  match readInt? json with
  | some n => if 0 ≤ n ∧ n < 0x100000000 then some (UInt32.ofNat n.toNat) else none
  | none => none

def readInt32? (json : Json) : Option Int32 :=
  match readInt? json with
  | some n => if -0x80000000 ≤ n ∧ n < 0x80000000 then some (Int32.ofInt n) else none
  | none => none

def readScore? : Json → Option Binary64
  | .number n => Score.ofNumeral? n
  | _ => none

/-- The game with these ten values. -/
def ofValues? : List Json → Option Game
  | [name, id, minPlayers, maxPlayers, minPlayTime, maxPlayTime, difficulty, rank, rating,
      year] => do
    some {
      name := ← readText? name
      id := ← readUInt32? id
      minPlayers := ← readUInt32? minPlayers
      maxPlayers := ← readUInt32? maxPlayers
      minPlayTime := ← readUInt32? minPlayTime
      maxPlayTime := ← readUInt32? maxPlayTime
      difficulty := ← readScore? difficulty
      rank := ← readUInt32? rank
      rating := ← readScore? rating
      yearPublished := ← readInt32? year }
  | _ => none

/-- The value of the only member with this key. -/
def member? (members : List (Json.Content × Json)) (key : String) : Option Json :=
  match members.filter (·.1 == some key) with
  | [(_, value)] => some value
  | _ => none

/-- Reads a game. Members beyond the ten are ignored, but every key must be a text. -/
def ofJson? : Json → Option Game
  | .array values => ofValues? values
  | .object members =>
    if members.all (·.1.isSome) then (keys.mapM (member? members)).bind ofValues? else none
  | _ => none

end Record

end GameShelf
