import Mathlib.Data.List.Forall2
import GameShelf.Proofs.Display.Cells

namespace GameShelf.Display

/-- The numbers of a game that its line shows in full. -/
structure Figures where
  minPlayers : Nat
  maxPlayers : Nat
  minPlayTime : Nat
  maxPlayTime : Nat
  rank : Nat
  year : Int
deriving DecidableEq

namespace Figures

def ofGame (game : Game) : Figures where
  minPlayers := game.minPlayers.toNat
  maxPlayers := game.maxPlayers.toNat
  minPlayTime := game.minPlayTime.toNat
  maxPlayTime := game.maxPlayTime.toNat
  rank := game.rank.toNat
  year := game.yearPublished.toInt

/-- Reads six cells, of which those in the middle are scores. -/
def ofCells? : List (List Char) → Option Figures
  | [players, time, _, _, rank, year] => do
    let (minPlayers, maxPlayers) ← boundsOf? players
    let (minPlayTime, maxPlayTime) ← boundsOf? time
    some ⟨minPlayers, maxPlayers, minPlayTime, maxPlayTime, ← natOf? rank, ← intOf? year⟩
  | _ => none

end Figures

/-- The texts in the cells behind the name of a game. -/
def cellTexts (game : Game) : List String :=
  [Cell.range game.minPlayers game.maxPlayers, Cell.range game.minPlayTime game.maxPlayTime,
    Cell.score game.difficulty, Cell.score game.rating, toString game.rank.toNat,
    toString game.yearPublished.toInt]

/-- How the line of a game reads: its number in four places or more, its name in 32 places, and six
cells with the figures of the game. -/
structure IsLineOf (number : Nat) (game : Game) (line name cells : List Char) : Prop where
  whole : line = List.replicate (4 - (Nat.toDigits 10 number).length) ' ' ++
    Nat.toDigits 10 number ++ [' ', ' '] ++ name ++ ' ' :: cells
  width : name.length = 32
  short : game.name.length ≤ 32 →
    name = game.name.toList ++ List.replicate (32 - game.name.length) ' '
  long : 32 < game.name.length → name = game.name.toList.take 29 ++ ['.', '.', '.']
  six : cellsOf cells = (cellTexts game).map String.toList
  figures : Figures.ofCells? (cellsOf cells) = some (.ofGame game)

theorem Figures.ofCells?_cellTexts (game : Game) :
    ofCells? ((cellTexts game).map String.toList) = some (ofGame game) := by
  simp only [cellTexts, List.map_cons, List.map_nil, ofCells?, boundsOf?_range, natOf?_toString,
    intOf?_toString, Option.bind_eq_bind, Option.bind_some, ofGame]

/-- What stands behind the name and a space. -/
def behindName (game : Game) : String :=
  Text.padLeft 7 (Cell.range game.minPlayers game.maxPlayers) ++ " " ++
    Text.padLeft 9 (Cell.range game.minPlayTime game.maxPlayTime) ++ " " ++
    Text.padLeft 6 (Cell.score game.difficulty) ++ " " ++
    Text.padLeft 6 (Cell.score game.rating) ++ " " ++ Text.padLeft 6 (toString game.rank.toNat) ++
    " " ++ Text.padLeft 6 (toString game.yearPublished.toInt)

theorem gameRow_eq (number : Nat) (game : Game) :
    gameRow false number game =
      Text.padLeft 4 (toString number) ++ "  " ++
        Text.padRight 32 (Text.truncate 32 game.name) ++ " " ++ behindName game := by
  have rating : ratingCell false game.rating = Text.padLeft 6 (Cell.score game.rating) := rfl
  rw [gameRow, rating]
  delta row behindName
  simp only [Ink.paintIf, nameWidth, Bool.false_eq_true, if_false, String.append_assoc]

theorem cellsOf_behindName (game : Game) :
    cellsOf (behindName game).toList = (cellTexts game).map String.toList := by
  rw [behindName]
  simp only [cellsOf_append_space_append, (isFigures_range _ _).cellsOf_padLeft,
    (isFigures_score _).cellsOf_padLeft, (isFigures_nat _).cellsOf_padLeft,
    (isFigures_int _).cellsOf_padLeft]
  rfl

theorem isLineOf_gameRow (number : Nat) (game : Game) :
    IsLineOf number game (gameRow false number game).toList
      (Text.padRight 32 (Text.truncate 32 game.name)).toList (behindName game).toList := by
  have short (fits : game.name.length ≤ 32) :
      (Text.padRight 32 (Text.truncate 32 game.name)).toList =
        game.name.toList ++ List.replicate (32 - game.name.length) ' ' := by
    rw [Text.truncate_of_le fits, Text.toList_padRight]
  have long (wide : 32 < game.name.length) :
      (Text.padRight 32 (Text.truncate 32 game.name)).toList =
        game.name.toList.take 29 ++ ['.', '.', '.'] := by
    rw [Text.toList_padRight, Text.length_truncate_of_lt (by decide) wide,
      Text.toList_truncate_of_lt wide]
    exact List.append_nil _
  refine ⟨?_, Text.length_padRight_truncate (by decide) game.name, short, long,
    cellsOf_behindName game, ?_⟩
  · have spaces : "  ".toList = [' ', ' '] ∧ " ".toList = [' '] := ⟨rfl, rfl⟩
    simp only [gameRow_eq, String.toList_append, Text.toList_padLeft, ← String.length_toList,
      toList_toString, spaces, List.append_assoc, List.cons_append, List.nil_append]
  · rw [cellsOf_behindName]
    exact Figures.ofCells?_cellTexts game

theorem lineFeed_not_mem_gameRow (number : Nat) {game : Game}
    (unbroken : '\n' ∉ game.name.toList) : '\n' ∉ (gameRow false number game).toList := by
  have cell {text : String} (figures : IsFigures text) : '\n' ∉ text.toList :=
    figures.not_mem (by decide)
  have index : '\n' ∉ (Text.padLeft 4 (toString number)).toList :=
    Text.not_mem_padLeft (by decide) (cell (isFigures_nat number))
  have name : '\n' ∉ (Text.padRight nameWidth (Text.truncate nameWidth game.name)).toList :=
    Text.not_mem_padRight (by decide) (Text.not_mem_truncate (by decide) unbroken)
  have rating : '\n' ∉ (ratingCell false game.rating).toList :=
    Text.not_mem_padLeft (by decide) (cell (isFigures_score game.rating))
  refine not_mem_row (by decide) ?_
  simp only [List.forall_mem_cons]
  exact ⟨index, name, cell (isFigures_range _ _), cell (isFigures_range _ _),
    cell (isFigures_score _), rating, cell (isFigures_nat _), cell (isFigures_int _),
    List.forall_mem_nil _⟩

theorem lineFeed_not_mem_gamesHeader : '\n' ∉ gamesHeader.toList :=
  not_mem_row (by decide) (by decide)

/-- The rows of games are their lines, each closed by a line feed. -/
theorem splitOn_gameRows {games : List Game} (unbroken : ∀ game ∈ games, '\n' ∉ game.name.toList)
    (number : Nat) :
    (gameRows false number games).toList.splitOn '\n' =
      (games.zipIdx number).map (fun entry => (gameRow false entry.2 entry.1).toList) ++ [[]] := by
  induction games generalizing number with
  | nil => rfl
  | cons game games ih =>
    obtain ⟨first, later⟩ := List.forall_mem_cons.mp unbroken
    have whole : (gameRows false number (game :: games)).toList =
        (gameRow false number game).toList ++
          '\n' :: (gameRows false (number + 1) games).toList := by
      rw [gameRows, String.toList_append, String.toList_append, List.append_assoc]
      rfl
    rw [whole, List.splitOn_append_cons_self_of_not_mem (lineFeed_not_mem_gameRow number first),
      ih later, List.zipIdx_cons, List.map_cons, List.cons_append]

theorem splitOn_gamesTable {games : List Game} (filled : games ≠ [])
    (unbroken : ∀ game ∈ games, '\n' ∉ game.name.toList) :
    (gamesTable false games).toList.splitOn '\n' =
      gamesHeader.toList ::
        (games.zipIdx 1).map (fun entry => (gameRow false entry.2 entry.1).toList) ++ [[]] := by
  have whole : (gamesTable false games).toList =
      gamesHeader.toList ++ '\n' :: (gameRows false 1 games).toList := by
    rw [gamesTable, List.isEmpty_eq_false_iff.mpr filled, if_neg Bool.false_ne_true,
      Cell.header, String.toList_append, String.toList_append, List.append_assoc]
    rfl
  rw [whole, List.splitOn_append_cons_self_of_not_mem lineFeed_not_mem_gamesHeader,
    splitOn_gameRows unbroken 1, List.cons_append]

/-- Behind its header the table has one line for each game, in their order, and nothing more.
However wide they are, in each line the number and the name of the game come first, and the six
cells behind them give its players, its time, its rank and its year. -/
theorem lines_read_as_games {games : List Game} (filled : games ≠ [])
    (unbroken : ∀ game ∈ games, '\n' ∉ game.name.toList) :
    ∃ lines, (gamesTable false games).toList.splitOn '\n' = gamesHeader.toList :: lines ++ [[]] ∧
      List.Forall₂ (fun entry line => ∃ name cells, IsLineOf entry.2 entry.1 line name cells)
        (games.zipIdx 1) lines := by
  refine ⟨_, splitOn_gamesTable filled unbroken, ?_⟩
  rw [List.forall₂_map_right_iff]
  exact List.forall₂_same.mpr fun entry _ => ⟨_, _, isLineOf_gameRow entry.2 entry.1⟩

/-- A game whose name begins like a line and is cut, whose least numbers are the greatest, and whose
scores are too wide for their cells or missing. -/
def wideGame : Game :=
  { name := "   7  Über unendliche Geduld 2-4 ∞", id := 1, minPlayers := 4294967295,
    maxPlayers := 0, minPlayTime := 30, maxPlayTime := 30, difficulty := .ofNat (10 ^ 300),
    rank := 4294967295, rating := .nan false, yearPublished := -2147483648 }

theorem lines_read_as_games_of_wideGame :
    [wideGame] ≠ [] ∧ (∀ game ∈ [wideGame], '\n' ∉ game.name.toList) ∧
      ∃ line name cells,
        (gamesTable false [wideGame]).toList.splitOn '\n' = [gamesHeader.toList, line, []] ∧
          IsLineOf 1 wideGame line name cells ∧
          name = "   7  Über unendliche Geduld ...".toList ∧
          Figures.ofCells? (cellsOf cells) =
            some ⟨4294967295, 0, 30, 30, 4294967295, -2147483648⟩ := by
  have filled : [wideGame] ≠ [] := List.cons_ne_nil _ _
  have unbroken : ∀ game ∈ [wideGame], '\n' ∉ game.name.toList := by decide
  obtain ⟨lines, split, shown⟩ := lines_read_as_games filled unbroken
  cases shown with
  | @cons entry line _ rest first last =>
    cases last
    obtain ⟨name, cells, lineOf⟩ := first
    have cut : name = "   7  Über unendliche Geduld ...".toList :=
      (lineOf.long (by decide)).trans (by decide +kernel)
    exact ⟨filled, unbroken, line, name, cells, split, lineOf, cut, lineOf.figures⟩

end GameShelf.Display
