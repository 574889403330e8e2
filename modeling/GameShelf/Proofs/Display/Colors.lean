import GameShelf.Display.Shortlist
import GameShelf.Proofs.Display.Cells

namespace GameShelf

namespace Ink

def isParameter (c : Char) : Bool :=
  c.isDigit || c = ';'

/-- Whether a colour sequence begins here: the escape character, `[`, numbers, and `m`. -/
def beginsSequence : List Char → Bool
  | '\x1b' :: '[' :: cs => (cs.dropWhile isParameter).head? = some 'm'
  | _ => false

/-- What is seen of a text. Of a sequence it is nothing, up to the `m`; `inside` says whether the
text starts within one. -/
def seen (inside : Bool) : List Char → List Char
  | [] => []
  | c :: cs =>
    if inside then seen (c ≠ 'm') cs
    else if beginsSequence (c :: cs) then seen true cs
    else c :: seen false cs

/-- The text with its colour sequences removed. -/
def uncolored (text : String) : String :=
  String.ofList (seen false text.toList)

theorem seen_inside {skipped : List Char} (inside : 'm' ∉ skipped) (rest : List Char) :
    seen true (skipped ++ 'm' :: rest) = seen false rest := by
  induction skipped with
  | nil => rfl
  | cons c skipped ih =>
    rw [List.mem_cons, not_or] at inside
    rw [List.cons_append, seen, if_pos rfl, decide_eq_true (Ne.symm inside.1)]
    exact ih inside.2

/-- Nothing is seen of a colour sequence, whatever its numbers are. -/
theorem seen_sequence {code : String} (parameters : ∀ c ∈ code.toList, isParameter c)
    (rest : List Char) : seen false ((sequence code).toList ++ rest) = seen false rest := by
  have whole : (sequence code).toList ++ rest =
      '\x1b' :: '[' :: (code.toList ++ 'm' :: rest) := by
    simp [sequence]
  have begins : beginsSequence ('\x1b' :: '[' :: (code.toList ++ 'm' :: rest)) = true := by
    rw [beginsSequence, List.dropWhile_append_of_pos parameters]
    rfl
  have inside : 'm' ∉ '[' :: code.toList := by
    rw [List.mem_cons, not_or]
    exact ⟨by decide, fun member => absurd (parameters _ member) (by decide)⟩
  rw [whole, seen, if_neg Bool.false_ne_true, if_pos begins]
  exact seen_inside inside rest

theorem seen_append_of_clear {cs : List Char} (clear : '\x1b' ∉ cs) (rest : List Char) :
    seen false (cs ++ rest) = cs ++ seen false rest := by
  induction cs with
  | nil => rfl
  | cons c cs ih =>
    rw [List.mem_cons, not_or] at clear
    have other : beginsSequence (c :: (cs ++ rest)) = false := by
      unfold beginsSequence
      split <;> simp_all
    rw [List.cons_append, seen, if_neg Bool.false_ne_true, other, if_neg Bool.false_ne_true,
      ih clear.2, List.cons_append]

end Ink

namespace Display

/-- A text without the escape character, with which colour sequences begin. -/
def IsClear (text : String) : Prop :=
  '\x1b' ∉ text.toList

instance (text : String) : Decidable (IsClear text) :=
  inferInstanceAs (Decidable (_ ∉ _))

/-- Of the coloured text the plain one is seen, whatever comes behind it. -/
def Shows (colored plain : String) : Prop :=
  ∀ rest, Ink.seen false (colored.toList ++ rest) = plain.toList ++ Ink.seen false rest

section Clear

variable {text : String} {width : Nat}

theorem isClear_append (front back : String) :
    IsClear (front ++ back) ↔ IsClear front ∧ IsClear back := by
  rw [IsClear, String.toList_append, List.mem_append, not_or, IsClear, IsClear]

theorem isClear_nil : IsClear "" := by
  decide

theorem isClear_blanks (n : Nat) : IsClear (String.ofList (List.replicate n ' ')) := by
  rw [IsClear, String.toList_ofList]
  exact fun member => absurd (List.eq_of_mem_replicate member) (by decide)

theorem IsClear.padLeft (clear : IsClear text) : IsClear (Text.padLeft width text) :=
  Text.not_mem_padLeft (by decide) clear

theorem IsClear.padRight (clear : IsClear text) : IsClear (Text.padRight width text) :=
  Text.not_mem_padRight (by decide) clear

theorem IsClear.truncate (clear : IsClear text) : IsClear (Text.truncate width text) :=
  Text.not_mem_truncate (by decide) clear

theorem IsFigures.isClear (figures : IsFigures text) : IsClear text :=
  figures.not_mem (by decide)

theorem isClear_gamesHeader : IsClear gamesHeader :=
  not_mem_row (by decide) (by decide)

end Clear

section Shows

variable {colored plain text : String}

theorem Shows.uncolored_eq (shown : Shows colored plain) : Ink.uncolored colored = plain := by
  have whole := shown []
  rw [Ink.seen, List.append_nil, List.append_nil] at whole
  rw [Ink.uncolored, whole, String.ofList_toList]

theorem Shows.append {coloredBack plainBack : String} (front : Shows colored plain)
    (back : Shows coloredBack plainBack) :
    Shows (colored ++ coloredBack) (plain ++ plainBack) := by
  intro rest
  rw [String.toList_append, List.append_assoc, front, back, String.toList_append,
    List.append_assoc]

theorem IsClear.shows (clear : IsClear text) : Shows text text :=
  Ink.seen_append_of_clear clear

theorem Shows.paint (ink : Ink) (shown : Shows colored plain) :
    Shows (ink.paint colored) plain := by
  have on : ink.onCode.toList.all Ink.isParameter := by
    cases ink <;> decide
  have off : ink.offCode.toList.all Ink.isParameter := by
    cases ink <;> decide
  intro rest
  rw [Ink.paint, String.toList_append, String.toList_append, List.append_assoc, List.append_assoc,
    Ink.seen_sequence (List.all_eq_true.mp on), shown,
    Ink.seen_sequence (List.all_eq_true.mp off)]

theorem shows_header (clear : IsClear text) :
    Shows (Cell.header true text) (Cell.header false text) :=
  .append (clear.shows.paint .dimmed) (IsClear.shows (by decide))

theorem shows_rating (x : Binary64) : Shows (Cell.rating true x) (Cell.rating false x) := by
  have score := (isFigures_score x).isClear.shows
  cases found : Cell.ratingInk? x with
  | none => simpa only [Cell.rating, found] using score
  | some ink => simpa only [Cell.rating, found] using score.paint ink

/-- The padding is that of the plain score, with colours or without. -/
theorem shows_ratingCell (x : Binary64) : Shows (ratingCell true x) (ratingCell false x) :=
  .append (isClear_blanks _).shows (shows_rating x)

theorem shows_row {index plainIndex rating plainRating name players time difficulty rank year :
      String}
    (indexShown : Shows index plainIndex) (ratingShown : Shows rating plainRating)
    (clear : ∀ cell ∈ [name, players, time, difficulty, rank, year], IsClear cell) :
    Shows (row index name players time difficulty rating rank year)
      (row plainIndex name players time difficulty plainRating rank year) := by
  have blank : Shows " " " " := IsClear.shows (by decide)
  have blanks : Shows "  " "  " := IsClear.shows (by decide)
  simp only [List.forall_mem_cons] at clear
  obtain ⟨name, players, time, difficulty, rank, year, -⟩ := clear
  exact indexShown.append blanks |>.append name.shows |>.append blank
    |>.append players.padLeft.shows |>.append blank |>.append time.padLeft.shows |>.append blank
    |>.append difficulty.padLeft.shows |>.append blank |>.append ratingShown |>.append blank
    |>.append rank.padLeft.shows |>.append blank |>.append year.padLeft.shows

theorem shows_gameRow (index : Nat) {game : Game} (clear : IsClear game.name) :
    Shows (gameRow true index game) (gameRow false index game) := by
  refine shows_row ?_ (shows_ratingCell game.rating) ?_
  · exact (isFigures_nat index).isClear.padLeft.shows.paint .cyan
  · simp only [List.forall_mem_cons]
    exact ⟨clear.truncate.padRight, (isFigures_range _ _).isClear, (isFigures_range _ _).isClear,
      (isFigures_score _).isClear, (isFigures_nat _).isClear, (isFigures_int _).isClear,
      List.forall_mem_nil _⟩

theorem shows_gameRows {games : List Game} (clear : ∀ game ∈ games, IsClear game.name)
    (index : Nat) : Shows (gameRows true index games) (gameRows false index games) := by
  induction games generalizing index with
  | nil => exact isClear_nil.shows
  | cons game games ih =>
    obtain ⟨first, later⟩ := List.forall_mem_cons.mp clear
    exact (shows_gameRow index first).append (IsClear.shows (by decide)) |>.append
      (ih later (index + 1))

theorem isClear_nameLines {names : List String} (clear : ∀ name ∈ names, IsClear name)
    (index : Nat) : IsClear (nameLines index names) := by
  induction names generalizing index with
  | nil => exact isClear_nil
  | cons name names ih =>
    obtain ⟨first, later⟩ := List.forall_mem_cons.mp clear
    simp only [nameLines, isClear_append]
    exact ⟨⟨⟨⟨(isFigures_nat index).isClear.padLeft, by decide⟩, first⟩, by decide⟩,
      ih later (index + 1)⟩

theorem shows_gamesTable {games : List Game} (clear : ∀ game ∈ games, IsClear game.name) :
    Shows (gamesTable true games) (gamesTable false games) := by
  rw [gamesTable, gamesTable]
  split
  · exact IsClear.shows (by decide)
  · exact (shows_header isClear_gamesHeader).append (shows_gameRows clear 1)

theorem shows_shortlistTable {names : List String} (clear : ∀ name ∈ names, IsClear name) :
    Shows (shortlistTable true names) (shortlistTable false names) := by
  have title : IsClear ("Game list (" ++ toString names.length ++ ")") := by
    simp only [isClear_append]
    exact ⟨⟨by decide, (isFigures_nat _).isClear⟩, by decide⟩
  rw [shortlistTable, shortlistTable]
  split
  · exact IsClear.shows (by decide)
  · exact (shows_header title).append (isClear_nameLines clear 1).shows

end Shows

/-- If no name has the escape character in it, removing the colour sequences leaves the plain
table, both of games and of listed names. -/
theorem uncolored_tables :
    (∀ games : List Game, (∀ game ∈ games, IsClear game.name) →
      Ink.uncolored (gamesTable true games) = gamesTable false games) ∧
    ∀ names : List String, (∀ name ∈ names, IsClear name) →
      Ink.uncolored (shortlistTable true names) = shortlistTable false names :=
  ⟨fun _ clear => (shows_gamesTable clear).uncolored_eq,
    fun _ clear => (shows_shortlistTable clear).uncolored_eq⟩

/-- Games with ratings of all kinds: green, dimmed and in no ink, wider than their cell, infinite,
and no number. -/
def ratedGames : List Game :=
  [.ofNat 9, .ofNat 4, .ofNat 7, .ofNat (10 ^ 300), .infinity false, .infinity true,
    .nan false].map fun rating =>
    { name := "Café\t[36m", id := 1, minPlayers := 2, maxPlayers := 4, minPlayTime := 30,
      maxPlayTime := 30, difficulty := rating, rank := 1234567, rating := rating,
      yearPublished := -2000 }

theorem uncolored_tables_of_ratedGames :
    (∀ game ∈ ratedGames, IsClear game.name) ∧
      Ink.uncolored (gamesTable true ratedGames) = gamesTable false ratedGames ∧
      gamesTable true ratedGames ≠ gamesTable false ratedGames ∧
      Ink.uncolored (shortlistTable true (ratedGames.map Game.name)) =
        shortlistTable false (ratedGames.map Game.name) := by
  have clear : ∀ game ∈ ratedGames, IsClear game.name := by decide
  have clearNames : ∀ name ∈ ratedGames.map Game.name, IsClear name := by decide
  exact ⟨clear, uncolored_tables.1 _ clear, by decide +kernel,
    uncolored_tables.2 _ clearNames⟩

end Display

end GameShelf
