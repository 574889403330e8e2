import GameShelf.Proofs.Text.Digits
import GameShelf.Proofs.Text.Occurrence
import GameShelf.Shortlist.Basic

namespace GameShelf

namespace Block

/-- At least one position, and all of them in a row of this length. -/
def Inside (block : Block) (len : Nat) : Prop :=
  block.start < block.stop ∧ block.stop ≤ len

theorem of_map {α β : Type} (block : Block) (f : α → β) (row : List α) :
    block.of (row.map f) = (block.of row).map f := by
  simp only [of, List.map_take, List.map_drop]

theorem of_whole {α : Type} (row : List α) : (⟨0, row.length⟩ : Block).of row = row := by
  simp [of, size]

/-- A row is what stands before the block, the block, and what stands behind it. -/
theorem take_append_of_append_drop {α : Type} {block : Block} (ordered : block.start ≤ block.stop)
    (row : List α) : row.take block.start ++ block.of row ++ row.drop block.stop = row := by
  have behind : (row.drop block.start).drop block.size = row.drop block.stop := by
    rw [List.drop_drop, size, Nat.add_sub_cancel' ordered]
  rw [of, ← behind, List.append_assoc, List.take_append_drop, List.take_append_drop]

end Block

namespace Selection

/-- A row of digits with the number that it denotes, where that fits a machine word. -/
def Denotes (digits : List Char) (n : Nat) : Prop :=
  isDigits digits ∧ digitsValue digits = n ∧ n < UInt64.size

/-- Two such rows of digits with a dash between them. -/
def DenotesRange (word : List Char) (first last : Nat) : Prop :=
  ∃ left right : List Char, word = left ++ '-' :: right ∧ Denotes left first ∧ Denotes right last

/-- No name is the word, up to letter case. -/
def Unnamed (word : String) (names : List String) : Prop :=
  ∀ name ∈ names, Text.lower name ≠ Text.lower word

/-- The name at this position is the word, up to letter case, and none before it is. -/
def FirstNamed (word : String) (names : List String) (i : Nat) : Prop :=
  ∃ name, names[i]? = some name ∧ Text.lower name = Text.lower word ∧ Unnamed word (names.take i)

/-- What a word picks from a row of names. Bounds are counted from 1 in the word, from 0 in the
block. -/
inductive Resolves (word : String) (names : List String) : Except ShortlistError Block → Prop
  | name {i : Nat} (named : FirstNamed word names i) : Resolves word names (.ok ⟨i, i + 1⟩)
  | invalidRange {first last : Nat} (unnamed : Unnamed word names)
      (range : DenotesRange word.toList first last) (invalid : first = 0 ∨ last < first) :
      Resolves word names (.error (.invalidRange first last))
  | lateRange {first last : Nat} (unnamed : Unnamed word names)
      (range : DenotesRange word.toList first last) (positive : 0 < first) (ordered : first ≤ last)
      (late : names.length < first) :
      Resolves word names (.error (.rangeStartOutOfBounds first names.length))
  | range {start last : Nat} (unnamed : Unnamed word names)
      (range : DenotesRange word.toList (start + 1) last) (ordered : start + 1 ≤ last)
      (within : start + 1 ≤ names.length) :
      Resolves word names (.ok ⟨start, min last names.length⟩)
  | strayIndex {n : Nat} (unnamed : Unnamed word names) (index : Denotes word.toList n)
      (stray : n = 0 ∨ names.length < n) :
      Resolves word names (.error (.indexOutOfRange n names.length))
  | index {i : Nat} (unnamed : Unnamed word names) (index : Denotes word.toList (i + 1))
      (within : i + 1 ≤ names.length) : Resolves word names (.ok ⟨i, i + 1⟩)
  | other (unnamed : Unnamed word names)
      (noRange : ∀ first last, ¬ DenotesRange word.toList first last)
      (noIndex : ∀ n, ¬ Denotes word.toList n) :
      Resolves word names (.error (.invalidFormat word))

variable {word : String} {names : List String} {outcome : Except ShortlistError Block}
  {block : Block}

theorem readWord?_eq_some_iff {digits : List Char} {n : Nat} :
    readWord? digits = some n ↔ Denotes digits n := by
  simp only [readWord?, Denotes, Option.ite_none_right_eq_some, Bool.and_eq_true,
    decide_eq_true_eq, Option.some.injEq]
  constructor
  · rintro ⟨⟨digits, fits⟩, rfl⟩
    exact ⟨digits, rfl, fits⟩
  · rintro ⟨digits, rfl, fits⟩
    exact ⟨⟨digits, fits⟩, rfl⟩

theorem readRange?_eq_some_iff {cs : List Char} {first last : Nat} :
    readRange? cs = some (first, last) ↔ DenotesRange cs first last := by
  constructor
  · intro read
    rw [readRange?] at read
    split at read
    · cases read
    · rename_i left right split
      have shape := Text.eq_append_of_splitFirst split
      rw [List.append_assoc] at shape
      split at read
      · rename_i leftRead rightRead
        cases read
        exact ⟨left, right, shape, readWord?_eq_some_iff.mp leftRead,
          readWord?_eq_some_iff.mp rightRead⟩
      · cases read
  · rintro ⟨left, right, rfl, leftDenotes, rightDenotes⟩
    have split : Text.splitFirst ['-'] (left ++ ['-'] ++ right) = some (left, right) :=
      Text.splitFirst_of_not_mem right (dash_not_mem_of_isDigits leftDenotes.1)
    rw [List.append_assoc, List.singleton_append] at split
    simp only [readRange?, split, readWord?_eq_some_iff.mpr leftDenotes,
      readWord?_eq_some_iff.mpr rightDenotes]

theorem readRange?_eq_none_iff {cs : List Char} :
    readRange? cs = none ↔ ∀ first last, ¬ DenotesRange cs first last := by
  simp only [Option.eq_none_iff_forall_ne_some, Prod.forall, ← readRange?_eq_some_iff, ne_eq]

theorem readWord?_eq_none_iff {digits : List Char} :
    readWord? digits = none ↔ ∀ n, ¬ Denotes digits n := by
  simp only [Option.eq_none_iff_forall_ne_some, ← readWord?_eq_some_iff, ne_eq]

theorem readRange?_of_isDigits {cs : List Char} (digits : isDigits cs) : readRange? cs = none := by
  rw [readRange?_eq_none_iff]
  rintro first last ⟨left, right, rfl, -⟩
  exact dash_not_mem_of_isDigits digits (by simp)

theorem findName?_eq_none_iff : findName? word names = none ↔ Unnamed word names := by
  simp only [findName?, List.findIdx?_eq_none_iff, beq_eq_false_iff_ne, Unnamed]

theorem findName?_eq_some_iff {i : Nat} :
    findName? word names = some i ↔ FirstNamed word names i := by
  rw [findName?, List.findIdx?_eq_some_iff_getElem]
  constructor
  · rintro ⟨bound, same, earlier⟩
    refine ⟨names[i], List.getElem?_eq_getElem bound, by simpa using same, ?_⟩
    intro other member
    obtain ⟨j, inTake, rfl⟩ := List.mem_take_iff_getElem.mp member
    simpa using earlier j (by omega)
  · rintro ⟨name, atName, same, earlier⟩
    obtain ⟨bound, rfl⟩ := List.getElem?_eq_some_iff.mp atName
    refine ⟨bound, by simpa using same, ?_⟩
    intro j before
    have apart := earlier names[j] (List.mem_take_iff_getElem.mpr ⟨j, by omega, rfl⟩)
    simpa using apart

theorem resolve_of_unnamed (unnamed : Unnamed word names) :
    resolve word names = resolveNumber word names.length := by
  rw [resolve, findName?_eq_none_iff.mpr unnamed]

theorem resolveNumber_of_range {first last : Nat} (range : DenotesRange word.toList first last)
    (len : Nat) :
    resolveNumber word len =
      if first = 0 ∨ last < first then .error (.invalidRange first last)
      else if len < first then .error (.rangeStartOutOfBounds first len)
      else .ok ⟨first - 1, min last len⟩ := by
  simp only [resolveNumber, readRange?_eq_some_iff.mpr range, Bool.or_eq_true, decide_eq_true_eq]

theorem resolveNumber_of_index {n : Nat} (index : Denotes word.toList n) (len : Nat) :
    resolveNumber word len =
      if n = 0 ∨ len < n then .error (.indexOutOfRange n len) else .ok ⟨n - 1, n⟩ := by
  simp only [resolveNumber, readRange?_of_isDigits index.1, readWord?_eq_some_iff.mpr index,
    Bool.or_eq_true, decide_eq_true_eq]

theorem resolveNumber_of_neither (noRange : ∀ first last, ¬ DenotesRange word.toList first last)
    (noIndex : ∀ n, ¬ Denotes word.toList n) (len : Nat) :
    resolveNumber word len = .error (.invalidFormat word) := by
  simp only [resolveNumber, readRange?_eq_none_iff.mpr noRange, readWord?_eq_none_iff.mpr noIndex]

theorem resolve_of_resolves (resolves : Resolves word names outcome) :
    resolve word names = outcome := by
  cases resolves with
  | name named => rw [resolve, findName?_eq_some_iff.mpr named]
  | invalidRange unnamed range invalid =>
    rw [resolve_of_unnamed unnamed, resolveNumber_of_range range, if_pos invalid]
  | lateRange unnamed range positive ordered late =>
    rw [resolve_of_unnamed unnamed, resolveNumber_of_range range, if_neg (by omega), if_pos late]
  | range unnamed range ordered within =>
    rw [resolve_of_unnamed unnamed, resolveNumber_of_range range, if_neg (by omega),
      if_neg (by omega), Nat.add_sub_cancel]
  | strayIndex unnamed index stray =>
    rw [resolve_of_unnamed unnamed, resolveNumber_of_index index, if_pos stray]
  | index unnamed index within =>
    rw [resolve_of_unnamed unnamed, resolveNumber_of_index index, if_neg (by omega),
      Nat.add_sub_cancel]
  | other unnamed noRange noIndex =>
    rw [resolve_of_unnamed unnamed, resolveNumber_of_neither noRange noIndex]

theorem exists_resolves (word : String) (names : List String) :
    ∃ outcome, Resolves word names outcome := by
  cases found : findName? word names with
  | some i => exact ⟨_, .name (findName?_eq_some_iff.mp found)⟩
  | none =>
    have unnamed := findName?_eq_none_iff.mp found
    cases rangeRead : readRange? word.toList with
    | some bounds =>
      obtain ⟨first, last⟩ := bounds
      have range := readRange?_eq_some_iff.mp rangeRead
      by_cases invalid : first = 0 ∨ last < first
      · exact ⟨_, .invalidRange unnamed range invalid⟩
      by_cases late : names.length < first
      · exact ⟨_, .lateRange unnamed range (by omega) (by omega) late⟩
      · obtain ⟨start, rfl⟩ : ∃ start, first = start + 1 := ⟨first - 1, by omega⟩
        exact ⟨_, .range unnamed range (by omega) (by omega)⟩
    | none =>
      have noRange := readRange?_eq_none_iff.mp rangeRead
      cases indexRead : readWord? word.toList with
      | some n =>
        have index := readWord?_eq_some_iff.mp indexRead
        by_cases stray : n = 0 ∨ names.length < n
        · exact ⟨_, .strayIndex unnamed index stray⟩
        · obtain ⟨i, rfl⟩ : ∃ i, n = i + 1 := ⟨n - 1, by omega⟩
          exact ⟨_, .index unnamed index (by omega)⟩
      | none => exact ⟨_, .other unnamed noRange (readWord?_eq_none_iff.mp indexRead)⟩

theorem resolve_eq_iff : resolve word names = outcome ↔ Resolves word names outcome := by
  refine ⟨?_, resolve_of_resolves⟩
  rintro rfl
  obtain ⟨outcome, resolves⟩ := exists_resolves word names
  rwa [resolve_of_resolves resolves]

theorem Resolves.inside (resolves : Resolves word names (.ok block)) :
    block.Inside names.length := by
  cases resolves with
  | name named =>
    obtain ⟨name, atName, -⟩ := named
    obtain ⟨bound, -⟩ := List.getElem?_eq_some_iff.mp atName
    exact ⟨Nat.lt_succ_self _, bound⟩
  | range unnamed range ordered within =>
    exact ⟨lt_min ordered within, min_le_right _ _⟩
  | index unnamed index within => exact ⟨Nat.lt_succ_self _, within⟩

/-- The block that a word picks: the whole row, or what the word resolves to. -/
inductive Selects (word : String) (names : List String) : Block → Prop
  | everything (all : isAll word) : Selects word names ⟨0, names.length⟩
  | resolved {block : Block} (specific : ¬ isAll word)
      (resolves : Resolves word names (.ok block)) : Selects word names block

theorem Selects.bounds (selects : Selects word names block) :
    block.start ≤ block.stop ∧ block.stop ≤ names.length := by
  cases selects with
  | everything => exact ⟨Nat.zero_le _, le_rfl⟩
  | resolved _ resolves => exact ⟨resolves.inside.1.le, resolves.inside.2⟩

end Selection

end GameShelf
