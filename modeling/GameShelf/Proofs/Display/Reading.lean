import GameShelf.Display.Games
import GameShelf.Proofs.Binary64.Decimal
import GameShelf.Proofs.Catalog.Reload

namespace GameShelf

namespace Json

/-- The values of an object with these keys in this order, and with no others. -/
def valuesOf? (keys : List String) : Json → Option (List Json)
  | object members =>
    if members.map Prod.fst = keys.map some then some (members.map Prod.snd) else none
  | _ => none

def items? : Json → Option (List Json)
  | array items => some items
  | _ => none

def texts? (json : Json) : Option (List String) :=
  json.items?.bind fun items => items.mapM Record.readText?

def nat? (json : Json) : Option Nat :=
  (Record.readInt? json).bind Int.toNat?

/-- The double nearest to a number. -/
def nearest? : Json → Option Binary64
  | number numeral => some numeral.toDecimal.toBinary64
  | _ => none

theorem valuesOf?_ofMembers (keys : List String) (members : List (String × Json)) :
    valuesOf? keys (ofMembers members) =
      if members.map Prod.fst = keys then some (members.map Prod.snd) else none := by
  have names : (members.map fun member => (some member.1, member.2)).map Prod.fst =
      (members.map Prod.fst).map some := by
    simp
  have values : (members.map fun member => ((some member.1 : Content), member.2)).map Prod.snd =
      members.map Prod.snd := by
    simp
  simp only [ofMembers, valuesOf?, names, values,
    (List.map_injective_iff.mpr (Option.some_injective String)).eq_iff]

theorem texts?_stringArray (texts : List String) :
    texts? (Display.stringArray texts) = some texts := by
  have read : (texts.map ofString).mapM Record.readText? = some (texts.map id) :=
    mapM_map_eq_some fun _ _ => rfl
  rw [List.map_id] at read
  exact read

theorem nat?_ofNat (n : Nat) : nat? (.ofNat n) = some n := by
  have read : Record.readInt? (.ofNat n) = some (n : Int) := Record.readInt?_ofInt n
  rw [nat?, read]
  rfl

theorem nearest?_ofBinary64 {x : Binary64} (finite : x.isFinite = true) :
    nearest? (.ofBinary64 x) = some x := by
  rw [ofBinary64, if_pos finite, nearest?, Numeral.toBinary64_ofFinite finite]

end Json

namespace Display

/-- What a reader finds in a view. `rejected` may be missing, and each game has its number. -/
structure Contents where
  count : Nat
  filters : List String
  rejected : Option (List String)
  games : List (Game × Nat)
deriving DecidableEq

namespace Contents

/-- The game with the ten values of a record, its scores rounded to the nearest. -/
def gameOf? : List Json → Option Game
  | [name, id, minPlayers, maxPlayers, minPlayTime, maxPlayTime, difficulty, rank, rating,
      year] => do
    some {
      name := ← Record.readText? name
      id := ← Record.readUInt32? id
      minPlayers := ← Record.readUInt32? minPlayers
      maxPlayers := ← Record.readUInt32? maxPlayers
      minPlayTime := ← Record.readUInt32? minPlayTime
      maxPlayTime := ← Record.readUInt32? maxPlayTime
      difficulty := ← difficulty.nearest?
      rank := ← Record.readUInt32? rank
      rating := ← rating.nearest?
      yearPublished := ← Record.readInt32? year }
  | _ => none

/-- A record with a number in front. -/
def numberedGame? (json : Json) : Option (Game × Nat) := do
  match ← json.valuesOf? ("index" :: Record.keys) with
  | index :: values => some (← gameOf? values, ← index.nat?)
  | [] => none

def numberedGames? (json : Json) : Option (List (Game × Nat)) :=
  json.items?.bind fun items => items.mapM numberedGame?

/-- Reads a view, with the key for the reasons or without it. -/
def ofJson? (json : Json) : Option Contents := do
  match json.valuesOf? ["count", "filters", "games"],
    json.valuesOf? ["count", "filters", "rejected", "games"] with
  | some [count, filters, games], _ =>
    some ⟨← count.nat?, ← filters.texts?, none, ← numberedGames? games⟩
  | _, some [count, filters, rejected, games] =>
    some ⟨← count.nat?, ← filters.texts?, some (← rejected.texts?), ← numberedGames? games⟩
  | _, _ => none

/-- What there is to be found in a view: the games are numbered from 1, and the reasons are missing
if there are none. -/
def ofView (games : List Game) (filters rejected : List String) : Contents where
  count := games.length
  filters := filters
  rejected := if rejected = [] then none else some rejected
  games := games.zipIdx 1

theorem gameOf?_members {game : Game}
    (finite : game.difficulty.isFinite = true ∧ game.rating.isFinite = true) :
    gameOf? ((Record.members game).map Prod.snd) = some game := by
  have name : Record.readText? (.ofString game.name) = some game.name := rfl
  simp only [Record.members, List.map_cons, List.map_nil, gameOf?, name,
    Record.readUInt32?_ofNat, Record.readInt32?_ofInt, Json.nearest?_ofBinary64 finite.1,
    Json.nearest?_ofBinary64 finite.2, Option.bind_eq_bind, Option.bind_some]

/-- A record behind its number. -/
def numberedRecord (entry : Game × Nat) : Json :=
  .ofMembers (("index", .ofNat entry.2) :: Record.members entry.1)

theorem numbered_eq_map (index : Nat) (games : List Game) :
    numbered index games = (games.zipIdx index).map numberedRecord := by
  induction games generalizing index with
  | nil => rfl
  | cons game games ih => rw [numbered, ih, List.zipIdx_cons, List.map_cons, numberedRecord]

theorem valuesOf?_numberedRecord (entry : Game × Nat) :
    (numberedRecord entry).valuesOf? ("index" :: Record.keys) =
      some (.ofNat entry.2 :: (Record.members entry.1).map Prod.snd) := by
  have keys : (("index", Json.ofNat entry.2) :: Record.members entry.1).map Prod.fst =
      "index" :: Record.keys := by
    rw [List.map_cons, Record.keys_members]
  rw [numberedRecord, Json.valuesOf?_ofMembers, if_pos keys, List.map_cons]

theorem numberedGame?_of_values {json index : Json} {values : List Json} {game : Game} {n : Nat}
    (found : json.valuesOf? ("index" :: Record.keys) = some (index :: values))
    (readGame : gameOf? values = some game) (readIndex : index.nat? = some n) :
    numberedGame? json = some (game, n) := by
  simp only [numberedGame?, found, readGame, readIndex, Option.bind_eq_bind, Option.bind_some]

theorem numberedGame?_numberedRecord {entry : Game × Nat}
    (finite : entry.1.difficulty.isFinite = true ∧ entry.1.rating.isFinite = true) :
    numberedGame? (numberedRecord entry) = some entry :=
  numberedGame?_of_values (valuesOf?_numberedRecord entry) (gameOf?_members finite)
    (Json.nat?_ofNat entry.2)

theorem numberedGames?_numbered {games : List Game} (finite : Catalog.HasFiniteScores games)
    (index : Nat) :
    numberedGames? (.array (numbered index games)) = some (games.zipIdx index) := by
  have read : ((games.zipIdx index).map numberedRecord).mapM numberedGame? =
      some ((games.zipIdx index).map id) := by
    refine mapM_map_eq_some fun entry member => numberedGame?_numberedRecord ?_
    exact finite entry.1 (List.fst_mem_of_mem_zipIdx member)
  rw [numbered_eq_map, numberedGames?]
  rw [List.map_id] at read
  exact read

theorem ofJson?_gamesJson {games : List Game} (finite : Catalog.HasFiniteScores games)
    (filters rejected : List String) :
    ofJson? (gamesJson games filters rejected) = some (ofView games filters rejected) := by
  have listed := numberedGames?_numbered finite 1
  by_cases nothing : rejected = [] <;>
    simp [ofJson?, gamesJson, nothing, Json.valuesOf?_ofMembers, Json.nat?_ofNat,
      Json.texts?_stringArray, listed, ofView]

theorem ofView_injective {games others : List Game} {filters otherFilters : List String}
    {rejected otherRejected : List String}
    (same : ofView games filters rejected = ofView others otherFilters otherRejected) :
    games = others ∧ filters = otherFilters ∧ rejected = otherRejected := by
  simp only [ofView, Contents.mk.injEq] at same
  obtain ⟨-, filtersSame, rejectedSame, gamesSame⟩ := same
  refine ⟨?_, filtersSame, ?_⟩
  · have firsts := congrArg (List.map Prod.fst) gamesSame
    rwa [List.zipIdx_map_fst, List.zipIdx_map_fst] at firsts
  · by_cases nothing : rejected = [] <;> by_cases otherNothing : otherRejected = [] <;>
      simp_all

end Contents

theorem isProper_gamesJson (games : List Game) (filters rejected : List String) :
    (gamesJson games filters rejected).IsProper := by
  have number (n : Nat) : (Json.ofNat n).IsProper := Numeral.isProper_ofInt n
  have text (text : String) : (Json.ofString text).IsProper := trivial
  have texts (texts : List String) : (stringArray texts).IsProper :=
    Json.properItems_map text texts
  have record (entry : Game × Nat) : (Contents.numberedRecord entry).IsProper :=
    ⟨number entry.2, Record.isProper_toJson entry.1⟩
  have records : (Json.array (numbered 1 games)).IsProper := by
    rw [Contents.numbered_eq_map]
    exact Json.properItems_map record _
  rw [gamesJson]
  by_cases nothing : rejected.isEmpty
  · rw [if_pos nothing]
    exact ⟨number _, texts _, records, trivial⟩
  · rw [if_neg nothing]
    exact ⟨number _, texts _, texts _, records, trivial⟩

/-- The text of a view with finite scores is JSON, in which a reader finds the count, the clauses,
the reasons unless there are none, and every game behind its number. No other view has this text. -/
theorem view_read_from_text {games : List Game} (finite : Catalog.HasFiniteScores games)
    (filters rejected : List String) :
    (∃ json, Json.read? (gamesJson games filters rejected).prettyText = some json ∧
        Contents.ofJson? json = some (.ofView games filters rejected)) ∧
      ∀ others otherFilters otherRejected, Catalog.HasFiniteScores others →
        (gamesJson others otherFilters otherRejected).prettyText =
          (gamesJson games filters rejected).prettyText →
        others = games ∧ otherFilters = filters ∧ otherRejected = rejected := by
  have read := Json.read?_prettyText (isProper_gamesJson games filters rejected)
  have found := Contents.ofJson?_gamesJson finite filters rejected
  refine ⟨⟨_, read, found⟩, ?_⟩
  intro others otherFilters otherRejected otherFinite same
  have again := Json.read?_prettyText (isProper_gamesJson others otherFilters otherRejected)
  rw [same, read] at again
  have otherFound := Contents.ofJson?_gamesJson otherFinite otherFilters otherRejected
  rw [← Option.some.inj again, found] at otherFound
  exact Contents.ofView_injective (Option.some.inj otherFound).symm

/-- A game with characters of every kind in its name, a negative zero and the least score. -/
def oddGame : Game :=
  { Catalog.rated (.zero true) ⟨false, 1, by decide⟩ with
    name := "\"Go\" \\ / \u0008\u000c\n\r\t \u0000\u001f\u007f \u2028 é囲" }

theorem view_read_from_text_of_oddGame :
    Catalog.HasFiniteScores [oddGame] ∧
      (∃ json, Json.read? (gamesJson [oddGame] ["name==\\\"a"] ["line\nbreak", ""]).prettyText =
          some json ∧
        Contents.ofJson? json =
          some ⟨1, ["name==\\\"a"], some ["line\nbreak", ""], [(oddGame, 1)]⟩) ∧
      (gamesJson [oddGame] [] ["a", "b"]).prettyText ≠
        (gamesJson [oddGame] [] ["a\nb"]).prettyText := by
  have finite : Catalog.HasFiniteScores [oddGame] := by
    rw [Catalog.HasFiniteScores, List.forall_mem_singleton]
    decide
  refine ⟨finite, (view_read_from_text finite _ _).1, fun same => ?_⟩
  have rejected := ((view_read_from_text finite [] ["a\nb"]).2 _ _ _ finite same).2.2
  exact absurd rejected (by decide)

end Display

end GameShelf
