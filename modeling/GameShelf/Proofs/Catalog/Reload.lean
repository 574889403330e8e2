import Mathlib.Data.List.Forall2
import GameShelf.Catalog.Basic
import GameShelf.Proofs.Catalog.Score
import GameShelf.Proofs.Files.Storing
import GameShelf.Proofs.Json.Reading

namespace GameShelf

theorem mapM_map_eq_some {α β γ : Type} {read : β → Option γ} {write : α → β} {result : α → γ}
    {items : List α} (each : ∀ item ∈ items, read (write item) = some (result item)) :
    (items.map write).mapM read = some (items.map result) := by
  induction items with
  | nil => rfl
  | cons item items ih =>
    obtain ⟨first, later⟩ := List.forall_mem_cons.mp each
    rw [List.map_cons, List.mapM_cons, first, ih later]
    rfl

theorem exists_of_mapM_eq_some {α β : Type} {read : α → Option β} {items : List α}
    {results : List β} (found : items.mapM read = some results) {result : β}
    (member : result ∈ results) : ∃ item ∈ items, read item = some result := by
  induction items generalizing results with
  | nil =>
    cases found
    exact absurd member List.not_mem_nil
  | cons item items ih =>
    rw [List.mapM_cons] at found
    obtain ⟨first, readFirst, rest⟩ := Option.bind_eq_some_iff.mp found
    obtain ⟨others, readOthers, same⟩ := Option.bind_eq_some_iff.mp rest
    rw [← Option.some.inj same] at member
    rcases List.mem_cons.mp member with rfl | later
    · exact ⟨item, List.mem_cons_self, readFirst⟩
    · obtain ⟨source, inside, reads⟩ := ih readOthers later
      exact ⟨source, List.mem_cons_of_mem item inside, reads⟩

namespace Record

theorem readInt?_ofInt (n : Int) : readInt? (.ofInt n) = some n := by
  have size : digitsValue (Nat.toDigits 10 n.natAbs) = n.natAbs := digitsValue_toDigits _
  simp only [readInt?, Json.ofInt, Numeral.ofInt, Numeral.isInteger, size]
  by_cases negative : n < 0
  · have nonzero : n ≠ 0 := by omega
    simp [negative, nonzero, abs_of_neg negative]
  · simp [negative, abs_of_nonneg (not_lt.mp negative)]

theorem readUInt32?_ofNat (n : UInt32) : readUInt32? (.ofNat n.toNat) = some n := by
  have read : readInt? (.ofNat n.toNat) = some (n.toNat : Int) := readInt?_ofInt n.toNat
  have bound : n.toNat < 0x100000000 := n.toNat_lt
  have range : 0 ≤ (n.toNat : Int) ∧ (n.toNat : Int) < 0x100000000 := by omega
  simp only [readUInt32?, read, if_pos range, Int.toNat_natCast, UInt32.ofNat_toNat]

theorem readInt32?_ofInt (n : Int32) : readInt32? (.ofInt n.toInt) = some n := by
  have range : -0x80000000 ≤ n.toInt ∧ n.toInt < 0x80000000 := ⟨n.le_toInt, n.toInt_lt⟩
  simp only [readInt32?, readInt?_ofInt, if_pos range, Int32.ofInt_toInt]

theorem readScore?_ofBinary64 {x : Binary64} (finite : x.isFinite = true) :
    readScore? (.ofBinary64 x) = Score.ofNumeral? (.ofFinite x) := by
  rw [Json.ofBinary64, if_pos finite]
  rfl

section Members

/-- Members whose keys are texts. -/
def named (members : List (String × Json)) : List (Json.Content × Json) :=
  members.map fun (key, value) => (some key, value)

theorem filter_named_eq_nil {members : List (String × Json)} {key : String}
    (absent : key ∉ members.map Prod.fst) : (named members).filter (·.1 == some key) = [] := by
  rw [List.filter_eq_nil_iff]
  intro entry member
  obtain ⟨⟨name, value⟩, inside, rfl⟩ := List.mem_map.mp member
  have other : name ≠ key := by
    rintro rfl
    exact absent (List.mem_map_of_mem inside)
  simpa using other

theorem member?_named {members : List (String × Json)} (distinct : (members.map Prod.fst).Nodup)
    {entry : String × Json} (member : entry ∈ members) :
    member? (named members) entry.1 = some entry.2 := by
  have only : (named members).filter (·.1 == some entry.1) = [(some entry.1, entry.2)] := by
    induction members with
    | nil => exact absurd member List.not_mem_nil
    | cons first members ih =>
      obtain ⟨absent, later⟩ := List.nodup_cons.mp distinct
      rcases List.mem_cons.mp member with rfl | inside
      · have rest := filter_named_eq_nil absent
        simp only [named, List.map_cons] at rest ⊢
        rw [List.filter_cons_of_pos (by simp), rest]
      · have other : first.1 ≠ entry.1 := by
          intro same
          exact absent (by rw [same]; exact List.mem_map_of_mem inside)
        have rest := ih later inside
        simp only [named, List.map_cons] at rest ⊢
        rw [List.filter_cons_of_neg (by simpa using other), rest]
  simp only [member?, only]

theorem keys_members (game : Game) : (members game).map Prod.fst = keys :=
  rfl

theorem ofJson?_toJson_eq (game : Game) :
    ofJson? (toJson game) = ofValues? ((members game).map Prod.snd) := by
  have texts : (named (members game)).all (·.1.isSome) = true := by
    simp [named]
  have distinct : ((members game).map Prod.fst).Nodup := by
    rw [keys_members]
    decide
  have values : keys.mapM (member? (named (members game))) =
      some ((members game).map Prod.snd) := by
    rw [← keys_members game]
    exact mapM_map_eq_some fun entry member => member?_named distinct member
  have shape : toJson game = .object (named (members game)) := rfl
  rw [shape, ofJson?, if_pos texts, values, Option.bind_some]

end Members

/-- A game is read from its own record, but for its scores, which are read from their digits. -/
theorem ofJson?_toJson {game : Game} {difficulty rating : Binary64}
    (finite : game.difficulty.isFinite = true ∧ game.rating.isFinite = true)
    (readDifficulty : Score.ofNumeral? (.ofFinite game.difficulty) = some difficulty)
    (readRating : Score.ofNumeral? (.ofFinite game.rating) = some rating) :
    ofJson? (toJson game) = some { game with difficulty := difficulty, rating := rating } := by
  have name : readText? (.ofString game.name) = some game.name := rfl
  rw [ofJson?_toJson_eq]
  simp only [members, List.map_cons, List.map_nil, ofValues?, name, readUInt32?_ofNat,
    readInt32?_ofInt, readScore?_ofBinary64 finite.1, readScore?_ofBinary64 finite.2,
    readDifficulty, readRating, Option.bind_eq_bind, Option.bind_some]

theorem isFinite_of_readScore? {json : Json} {x : Binary64} (read : readScore? json = some x) :
    x.isFinite = true := by
  cases json with
  | number n => exact Score.isFinite_of_ofNumeral? read
  | _ => cases read

theorem isFinite_of_ofValues? {values : List Json} {game : Game}
    (read : ofValues? values = some game) :
    game.difficulty.isFinite = true ∧ game.rating.isFinite = true := by
  rw [ofValues?.eq_def] at read
  split at read
  · simp only [Option.bind_eq_bind, Option.bind_eq_some_iff, Option.some.injEq] at read
    obtain ⟨_, -, _, -, _, -, _, -, _, -, _, -, difficulty, readDifficulty, _, -, rating,
      readRating, _, -, rfl⟩ := read
    exact ⟨isFinite_of_readScore? readDifficulty, isFinite_of_readScore? readRating⟩
  · cases read

theorem isFinite_of_ofJson? {json : Json} {game : Game} (read : ofJson? json = some game) :
    game.difficulty.isFinite = true ∧ game.rating.isFinite = true := by
  cases json with
  | array values => exact isFinite_of_ofValues? read
  | object members =>
    rw [ofJson?] at read
    split at read
    · obtain ⟨values, -, rest⟩ := Option.bind_eq_some_iff.mp read
      exact isFinite_of_ofValues? rest
    · cases read
  | _ => cases read

theorem isProper_toJson (game : Game) : (toJson game).IsProper := by
  have score (x : Binary64) : (Json.ofBinary64 x).IsProper := by
    rw [Json.ofBinary64]
    split
    · exact Numeral.isProper_ofFinite x
    · trivial
  have whole (n : Int) : (Json.ofInt n).IsProper := Numeral.isProper_ofInt n
  exact ⟨trivial, whole _, whole _, whole _, whole _, whole _, score _, whole _, score _, whole _,
    trivial⟩

end Record

namespace Catalog

/-- Every difficulty and every rating is a number. -/
def HasFiniteScores (games : List Game) : Prop :=
  ∀ game ∈ games, game.difficulty.isFinite = true ∧ game.rating.isFinite = true

/-- Two games that can differ in their scores only. -/
def SameButScores (one two : Game) : Prop :=
  two = { one with difficulty := two.difficulty, rating := two.rating }

/-- The texts that a catalog is written as. -/
def texts (games : List Game) : List String :=
  [(toJson games).compactText, (toJson games).prettyText]

/-- What comes of loading a catalog that was written from these games. -/
def Reloads (path : String) (games : List Game) : Prop :=
  ∀ text ∈ texts games, ∃ reloaded,
    ofFile path (.ok text.toUTF8) = .ok reloaded ∧ List.Forall₂ SameButScores games reloaded ∧
      (reloaded = games ↔
        ∀ game ∈ games, Score.Survives game.difficulty ∧ Score.Survives game.rating)

theorem isProper_toJson (games : List Game) : (toJson games).IsProper :=
  Json.properItems_map Record.isProper_toJson games

theorem read?_text {games : List Game} {text : String} (member : text ∈ texts games) :
    Json.read? text = some (toJson games) := by
  have written : text = (toJson games).compactText ∨ text = (toJson games).prettyText := by
    simpa [texts] using member
  rcases written with rfl | rfl
  · exact Json.read?_compactText (isProper_toJson games)
  · exact Json.read?_prettyText (isProper_toJson games)

theorem ofFile_text (path : String) {games reloaded : List Game} {text : String}
    (member : text ∈ texts games)
    (records : (games.map Record.toJson).mapM Record.ofJson? = some reloaded) :
    ofFile path (.ok text.toUTF8) = .ok reloaded := by
  have read : read? text = some reloaded := by
    simp only [Catalog.read?, read?_text member, toJson, records]
  simp only [ofFile, fromUTF8?_toUTF8, read]

theorem of_ofFile_eq_ok {path : String} {content : ByteArray} {games : List Game}
    (loaded : ofFile path (.ok content) = .ok games) :
    ∃ items : List Json, items.mapM Record.ofJson? = some games := by
  simp only [ofFile] at loaded
  split at loaded
  · cases loaded
  · split at loaded
    · cases loaded
    case h_2 _ text _ _ found =>
      cases loaded
      rw [read?] at found
      split at found
      case h_1 items _ => exact ⟨items, found⟩
      case h_2 => cases found

/-- What loads has finite scores, whoever wrote it. -/
theorem hasFiniteScores_of_ofFile {path : String} {content : ByteArray} {games : List Game}
    (loaded : ofFile path (.ok content) = .ok games) : HasFiniteScores games := by
  obtain ⟨items, records⟩ := of_ofFile_eq_ok loaded
  intro game member
  obtain ⟨item, -, read⟩ := exists_of_mapM_eq_some records member
  exact Record.isFinite_of_ofJson? read

/-- The score that is read from the text of a score. Every finite score can be read. -/
def reread (x : Binary64) : Binary64 :=
  (Score.ofNumeral? (.ofFinite x)).getD x

theorem ofNumeral?_eq_reread {x : Binary64} (finite : x.isFinite = true) :
    Score.ofNumeral? (.ofFinite x) = some (reread x) := by
  obtain ⟨y, read⟩ := Score.exists_ofNumeral?_ofFinite finite
  rw [reread, read, Option.getD_some]

theorem reread_eq_iff {x : Binary64} (finite : x.isFinite = true) :
    reread x = x ↔ Score.Survives x := by
  rw [← Score.ofNumeral?_ofFinite_iff, ofNumeral?_eq_reread finite, Option.some.injEq]

/-- The game that is read from the record of a game. -/
def rescored (game : Game) : Game :=
  { game with difficulty := reread game.difficulty, rating := reread game.rating }

theorem rescored_eq_iff {game : Game}
    (finite : game.difficulty.isFinite = true ∧ game.rating.isFinite = true) :
    rescored game = game ↔ Score.Survives game.difficulty ∧ Score.Survives game.rating := by
  rw [← reread_eq_iff finite.1, ← reread_eq_iff finite.2]
  constructor
  · intro same
    exact ⟨congrArg Game.difficulty same, congrArg Game.rating same⟩
  · rintro ⟨difficulty, rating⟩
    rw [rescored, difficulty, rating]

theorem reloads {games : List Game} (finite : HasFiniteScores games) (path : String) :
    Reloads path games := by
  intro text member
  have records : (games.map Record.toJson).mapM Record.ofJson? = some (games.map rescored) := by
    refine mapM_map_eq_some fun game inside => ?_
    obtain ⟨difficulty, rating⟩ := finite game inside
    exact Record.ofJson?_toJson ⟨difficulty, rating⟩ (ofNumeral?_eq_reread difficulty)
      (ofNumeral?_eq_reread rating)
  refine ⟨games.map rescored, ofFile_text path member records, ?_, ?_⟩
  · rw [List.forall₂_map_right_iff]
    exact List.forall₂_same.mpr fun game _ => rfl
  · calc games.map rescored = games
        ↔ games.map rescored = games.map id := by rw [List.map_id]
      _ ↔ ∀ game ∈ games, rescored game = game := List.map_inj_left
      _ ↔ ∀ game ∈ games, Score.Survives game.difficulty ∧ Score.Survives game.rating :=
          forall₂_congr fun game inside => rescored_eq_iff (finite game inside)

/-- Games with finite scores can be written and loaded, in both forms, and are then the same but for
scores that do not survive their own digits. So can whatever was loaded from a file, since its
scores are finite. A score survives if its digits make a number below `2 ^ 53` and its power of ten
is at most 22 either way. -/
theorem reload_iff_scores_survive (path : String) :
    (∀ games, HasFiniteScores games → Reloads path games) ∧
      (∀ content games, ofFile path (.ok content) = .ok games →
        HasFiniteScores games ∧ Reloads path games) ∧
      ∀ x : Binary64, x.isFinite = true →
        (Numeral.ofFinite x).toDecimal.coefficient < 2 ^ 53 →
        (Numeral.ofFinite x).toDecimal.exponent.natAbs ≤ 22 → Score.Survives x := by
  refine ⟨fun games finite => reloads finite path, fun content games loaded => ?_, ?_⟩
  · have finite := hasFiniteScores_of_ofFile loaded
    exact ⟨finite, reloads finite path⟩
  · intro x finite digits places
    exact Score.survives_of_few finite digits places

/-- A game with these scores. -/
def rated (difficulty rating : Binary64) : Game where
  name := "Go"
  id := 188
  minPlayers := 2
  maxPlayers := 2
  minPlayTime := 30
  maxPlayTime := 180
  difficulty := difficulty
  rank := 215
  rating := rating
  yearPublished := -2200

theorem hasFiniteScores_rated {difficulty rating : Binary64} (one : difficulty.isFinite = true)
    (two : rating.isFinite = true) : HasFiniteScores [rated difficulty rating] :=
  List.forall_mem_singleton.mpr ⟨one, two⟩

theorem survive_rated {difficulty rating : Binary64} :
    (∀ game ∈ [rated difficulty rating],
      Score.Survives game.difficulty ∧ Score.Survives game.rating) ↔
        Score.Survives difficulty ∧ Score.Survives rating :=
  List.forall_mem_singleton

/-- Scores in tenths come back, and what was loaded can be written and loaded again. -/
theorem reload_iff_scores_survive_of_tenths :
    (∀ text ∈ texts [rated (.ofRatio false 39 10) (.ofRatio false 78 10)],
      ofFile "board_games.json" (.ok text.toUTF8) =
        .ok [rated (.ofRatio false 39 10) (.ofRatio false 78 10)]) ∧
      Reloads "board_games.json" [rated (.ofRatio false 39 10) (.ofRatio false 78 10)] := by
  obtain ⟨written, loaded, few⟩ := reload_iff_scores_survive "board_games.json"
  have difficulty : Score.Survives (.ofRatio false 39 10) :=
    few _ (by decide +kernel) (by decide +kernel) (by decide +kernel)
  have rating : Score.Survives (.ofRatio false 78 10) :=
    few _ (by decide +kernel) (by decide +kernel) (by decide +kernel)
  have finite : HasFiniteScores [rated (.ofRatio false 39 10) (.ofRatio false 78 10)] :=
    hasFiniteScores_rated (by decide +kernel) (by decide +kernel)
  have survive := survive_rated.mpr ⟨difficulty, rating⟩
  generalize [rated (.ofRatio false 39 10) (.ofRatio false 78 10)] = games at *
  have exact (text : String) (member : text ∈ texts games) :
      ofFile "board_games.json" (.ok text.toUTF8) = .ok games := by
    obtain ⟨reloaded, loads, -, same⟩ := written games finite text member
    rw [loads, same.mpr survive]
  have compact := exact (toJson games).compactText List.mem_cons_self
  exact ⟨exact, (loaded _ games compact).2⟩

/-- The rating `83 / 9` is written as `9.222222222222221`. These digits are more than 53 bits, so
they are rounded already before they are divided, and another rating is loaded. -/
theorem reload_of_ninths :
    HasFiniteScores [rated (.ofRatio false 39 10) (.ofRatio false 83 9)] ∧
      ∀ text ∈ texts [rated (.ofRatio false 39 10) (.ofRatio false 83 9)],
        ofFile "board_games.json" (.ok text.toUTF8) ≠
          .ok [rated (.ofRatio false 39 10) (.ofRatio false 83 9)] := by
  have finite : HasFiniteScores [rated (.ofRatio false 39 10) (.ofRatio false 83 9)] :=
    hasFiniteScores_rated (by decide +kernel) (by decide +kernel)
  have lost : ¬ Score.Survives (.ofRatio false 83 9) := by decide +kernel
  refine ⟨finite, fun text member loads => lost ?_⟩
  obtain ⟨reloaded, reads, -, same⟩ := reloads finite "board_games.json" text member
  have unchanged := Except.ok.inj (reads.symm.trans loads)
  exact (survive_rated.mp (same.mp unchanged)).2

end Catalog

end GameShelf
