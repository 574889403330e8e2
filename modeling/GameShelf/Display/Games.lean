import GameShelf.Catalog.Record
import GameShelf.Display.Cell

namespace GameShelf.Display

/-- The width of the name cell. -/
def nameWidth : Nat :=
  32

/-- The cells of a row, each of the later ones behind a space. -/
def row (index name players time difficulty rating rank year : String) : String :=
  index ++ "  " ++ name ++ " " ++ Text.padLeft 7 players ++ " " ++ Text.padLeft 9 time ++ " " ++
    Text.padLeft 6 difficulty ++ " " ++ rating ++ " " ++ Text.padLeft 6 rank ++ " " ++
    Text.padLeft 6 year

def gamesHeader : String :=
  row (Text.padLeft 4 "#") (Text.padRight nameWidth "Name") "Players" "Time" "Diff"
    (Text.padLeft 6 "Rating") "Rank" "Year"

/-- The rating cell. Its padding goes before the ink, which has no width. -/
def ratingCell (colors : Bool) (x : Binary64) : String :=
  String.ofList (List.replicate (6 - (Cell.score x).length) ' ') ++ Cell.rating colors x

/-- The row of a game, with its number counted from 1. -/
def gameRow (colors : Bool) (index : Nat) (game : Game) : String :=
  row (Ink.cyan.paintIf colors (Text.padLeft 4 (toString index)))
    (Text.padRight nameWidth (Text.truncate nameWidth game.name))
    (Cell.range game.minPlayers game.maxPlayers) (Cell.range game.minPlayTime game.maxPlayTime)
    (Cell.score game.difficulty) (ratingCell colors game.rating) (toString game.rank.toNat)
    (toString game.yearPublished.toInt)

/-- The rows of games, numbered from `index` on. -/
def gameRows (colors : Bool) (index : Nat) : List Game → String
  | [] => ""
  | game :: games => gameRow colors index game ++ "\n" ++ gameRows colors (index + 1) games

def gamesTable (colors : Bool) (games : List Game) : String :=
  if games.isEmpty then "No games found.\n"
  else Cell.header colors gamesHeader ++ gameRows colors 1 games

/-- A line with the active clauses. -/
def clausesLine (clauses : List String) : String :=
  if clauses.isEmpty then "No active filters.\n"
  else "Active filters: " ++ ", ".intercalate clauses ++ "\n"

def stringArray (texts : List String) : Json :=
  .array (texts.map Json.ofString)

/-- The records of games, each with its number in front. -/
def numbered (index : Nat) : List Game → List Json
  | [] => []
  | game :: games =>
    .ofMembers (("index", .ofNat index) :: Record.members game) :: numbered (index + 1) games

/-- A view with the clauses behind it and the reasons for those dropped, if there are any. -/
def gamesJson (games : List Game) (filters rejected : List String) : Json :=
  .ofMembers (
    [("count", .ofNat games.length), ("filters", stringArray filters)] ++
    (if rejected.isEmpty then [] else [("rejected", stringArray rejected)]) ++
    [("games", .array (numbered 1 games))])

end GameShelf.Display
