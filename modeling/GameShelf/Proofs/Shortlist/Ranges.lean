import GameShelf.Proofs.Session.Positions
import GameShelf.Proofs.Shortlist.Addition
import GameShelf.Proofs.Shortlist.Removal

namespace GameShelf

namespace Block

/-- Two blocks that meet are one. -/
theorem of_append_of {α : Type} {start middle stop : Nat} (left : start ≤ middle)
    (right : middle ≤ stop) (row : List α) :
    (⟨start, middle⟩ : Block).of row ++ (⟨middle, stop⟩ : Block).of row =
      (⟨start, stop⟩ : Block).of row := by
  have behind : row.drop middle = (row.drop start).drop (middle - start) := by
    rw [List.drop_drop, Nat.add_sub_cancel' left]
  have size : stop - start = (middle - start) + (stop - middle) := by omega
  simp only [of, Block.size]
  rw [behind, size, List.take_add]

/-- A block that ends with its row, or before. -/
theorem of_min {α : Type} (start stop : Nat) (row : List α) :
    (⟨start, min stop row.length⟩ : Block).of row = (row.take stop).drop start := by
  rw [of, Block.size, ← List.drop_take, ← List.take_eq_take_min]

end Block

namespace Selection

/-- The word for the rows from `first` to `last`. -/
def rangeWord (first last : Nat) : String :=
  toString first ++ "-" ++ toString last

theorem toList_rangeWord (first last : Nat) :
    (rangeWord first last).toList = Nat.toDigits 10 first ++ '-' :: Nat.toDigits 10 last :=
  toList_dashed first last

theorem denotes_toDigits {n : Nat} (fits : n < UInt64.size) : Denotes (Nat.toDigits 10 n) n :=
  ⟨isDigits_toDigits n, digitsValue_toDigits n, fits⟩

theorem denotes_toString {n : Nat} (fits : n < UInt64.size) : Denotes (toString n).toList n := by
  rw [toList_toString]
  exact denotes_toDigits fits

theorem denotesRange_rangeWord {first last : Nat} (ordered : first ≤ last)
    (fits : last < UInt64.size) : DenotesRange (rangeWord first last).toList first last :=
  ⟨_, _, toList_rangeWord first last, denotes_toDigits (ordered.trans_lt fits),
    denotes_toDigits fits⟩

theorem positional_toString (n : Nat) : Positional (toString n) := by
  refine Or.inl ?_
  rw [toList_toString]
  exact isDigits_toDigits n

theorem positional_rangeWord (first last : Nat) : Positional (rangeWord first last) :=
  Or.inr ⟨_, _, isDigits_toDigits first, isDigits_toDigits last, toList_rangeWord first last⟩

end Selection

namespace Positional

variable {token : String} {names : List String} {block : Block}

theorem filled (positional : Positional token) : ¬ (Text.trim token).isEmpty := by
  rw [positional.trim_eq, String.isEmpty_iff, ← String.toList_eq_nil_iff]
  exact positional.ne_nil

/-- Only a name that is the very token is taken for it. -/
theorem unnamed (positional : Positional token) (absent : token ∉ names) :
    Selection.Unnamed token names := by
  intro name member same
  have marks : ∀ c ∈ token.toList, Text.isMark c :=
    fun c inToken => Text.isMark_iff.mpr (positional.digit_or_dash c inToken)
  exact absent ((Text.lower_eq_iff_of_isMark marks).mp same ▸ member)

theorem selects (positional : Positional token)
    (resolves : Selection.Resolves token names (.ok block)) :
    Selection.Selects (Text.trim token) names block := by
  rw [positional.trim_eq]
  refine .resolved ?_ resolves
  simp [positional.isAll_eq_false]

end Positional

namespace Selection

variable {names : List String}

/-- The number of a row picks that row. -/
theorem selects_index {i : Nat} (within : i < names.length) (fits : i + 1 < UInt64.size)
    (absent : toString (i + 1) ∉ names) :
    Selects (Text.trim (toString (i + 1))) names ⟨i, i + 1⟩ := by
  have positional := positional_toString (i + 1)
  exact positional.selects
    (.index (positional.unnamed absent) (denotes_toString fits) within)

/-- A range picks its rows as far as there are any. -/
theorem selects_range {i last : Nat} (within : i < names.length) (ordered : i + 1 ≤ last)
    (fits : last < UInt64.size) (absent : rangeWord (i + 1) last ∉ names) :
    Selects (Text.trim (rangeWord (i + 1) last)) names ⟨i, min last names.length⟩ := by
  have positional := positional_rangeWord (i + 1) last
  exact positional.selects
    (.range (positional.unnamed absent) (denotesRange_rangeWord ordered fits) ordered within)

end Selection

namespace Shortlist

/-- The list after a change for each of some selections in turn, and the sum of their counts. The
first change that fails ends it. -/
def inTurn (change : Shortlist → String → Except ShortlistError (Shortlist × Nat))
    (list : Shortlist) : List String → Except ShortlistError (Shortlist × Nat)
  | [] => .ok (list, 0)
  | selection :: later => do
    let (next, n) ← change list selection
    let (after, more) ← inTurn change next later
    return (after, n + more)

variable {list next after : Shortlist} {selection : String} {later : List String}
  {candidates : List Game} {i k n more : Nat}

theorem inTurn_cons {change : Shortlist → String → Except ShortlistError (Shortlist × Nat)}
    (first : change list selection = .ok (next, n))
    (rest : inTurn change next later = .ok (after, more)) :
    inTurn change list (selection :: later) = .ok (after, n + more) := by
  rw [inTurn, first]
  simp only [bind, Except.bind, rest]
  rfl

section Adding

/-- What was counted before is added to the count. -/
theorem insert_of_counted (list : Shortlist) (n more : Nat) (name : String) :
    insert (list, n + more) name =
      ((insert (list, more) name).1, n + (insert (list, more) name).2) := by
  rw [insert, insert]
  split <;> rfl

theorem foldl_insert_of_counted (names : List String) (list : Shortlist) (n more : Nat) :
    names.foldl insert (list, n + more) =
      ((names.foldl insert (list, more)).1, n + (names.foldl insert (list, more)).2) := by
  induction names generalizing list more with
  | nil => rfl
  | cons name names ih => rw [List.foldl_cons, List.foldl_cons, insert_of_counted, ih]

theorem insertAll_append (list : Shortlist) (front back : List String) :
    list.insertAll (front ++ back) =
      (((list.insertAll front).1.insertAll back).1,
        (list.insertAll front).2 + ((list.insertAll front).1.insertAll back).2) := by
  rw [insertAll, List.foldl_append]
  exact foldl_insert_of_counted back (list.insertAll front).1 (list.insertAll front).2 0

theorem add_of_selects {block : Block} (filled : ¬ (Text.trim selection).isEmpty)
    (nonempty : candidates ≠ [])
    (selects : Selection.Selects (Text.trim selection) (candidates.map Game.name) block) :
    list.add selection candidates = .ok (list.insertAll ((block.of candidates).map Game.name)) := by
  rw [add, Change.result_eq_ok_iff, addFrom_of_selects filled nonempty selects]
  rfl

/-- Induction on the number of rows: adding them one by one lists the names of the block. -/
theorem inTurn_add (list : Shortlist) (within : i + k ≤ candidates.length)
    (fits : i + k < UInt64.size)
    (absent : ∀ j, i ≤ j → j < i + k → toString (j + 1) ∉ candidates.map Game.name) :
    inTurn (add · · candidates) list ((List.range' (i + 1) k).map toString) =
      .ok (list.insertAll (((⟨i, i + k⟩ : Block).of candidates).map Game.name)) := by
  induction k generalizing i list with
  | zero => simp [inTurn, Block.of, Block.size, insertAll]
  | succ k ih =>
    have nonempty : candidates ≠ [] := by
      rintro rfl
      simp at within
    have selects : Selection.Selects (Text.trim (toString (i + 1))) (candidates.map Game.name)
        ⟨i, i + 1⟩ :=
      Selection.selects_index (by rw [List.length_map]; omega) (by omega)
        (absent i le_rfl (by omega))
    have first := list.add_of_selects (Selection.positional_toString (i + 1)).filled nonempty
      selects
    have rest := ih (list.insertAll (((⟨i, i + 1⟩ : Block).of candidates).map Game.name)).1
      (i := i + 1) (by omega) (by omega) fun j lower upper => absent j (by omega) (by omega)
    have whole := Block.of_append_of (Nat.le_succ i) (show i + 1 ≤ i + 1 + k by omega) candidates
    have stop : i + (k + 1) = i + 1 + k := by omega
    rw [List.range'_succ, List.map_cons, stop, ← whole, List.map_append, insertAll_append]
    exact inTurn_cons first rest

/-- A range of numbers and its members one by one. -/
theorem Keyed.add_range (keyed : list.Keyed) {first last : Nat} (positive : 1 ≤ first)
    (ordered : first ≤ last) (fits : last < UInt64.size) (within : first ≤ candidates.length)
    (absent : Selection.rangeWord first last ∉ candidates.map Game.name)
    (absents : ∀ row, first ≤ row → row ≤ min last candidates.length →
      toString row ∉ candidates.map Game.name) :
    ∃ after n, list.Enlisted (((candidates.map Game.name).take last).drop (first - 1)) after n ∧
      list.add (Selection.rangeWord first last) candidates = .ok (after, n) ∧
      inTurn (add · · candidates) list
        ((List.range' first (min last candidates.length - first + 1)).map toString) =
          .ok (after, n) := by
  obtain ⟨i, rfl⟩ := Nat.exists_eq_add_of_le' positive
  have nonempty : candidates ≠ [] := by
    rintro rfl
    simp at within
  have inNames : i < (candidates.map Game.name).length := by rwa [List.length_map]
  have selects := Selection.selects_range inNames ordered fits absent
  rw [List.length_map] at selects
  have batch := list.add_of_selects (Selection.positional_rangeWord (i + 1) last).filled nonempty
    selects
  have stop : min last candidates.length = i + (min last candidates.length - (i + 1) + 1) := by
    omega
  have bound : i + (min last candidates.length - (i + 1) + 1) ≤ candidates.length := by omega
  have single := list.inTurn_add bound (by omega)
    fun row lower upper => absents (row + 1) (by omega) (by omega)
  rw [← stop] at single
  have rows : ((⟨i, min last candidates.length⟩ : Block).of candidates).map Game.name =
      ((candidates.map Game.name).take last).drop i := by
    rw [Block.of_min, List.map_drop, List.map_take]
  rw [rows] at batch single
  exact ⟨_, _, keyed.enlisted_insertAll _, batch, single⟩

/-- All candidates are the range of them. -/
theorem add_all (list : Shortlist) (fits : candidates.length < UInt64.size)
    (absent : Selection.rangeWord 1 candidates.length ∉ candidates.map Game.name) :
    list.add "all" candidates = list.add (Selection.rangeWord 1 candidates.length) candidates := by
  have allFilled : ¬ (Text.trim "all").isEmpty := by decide +kernel
  have filled := (Selection.positional_rangeWord 1 candidates.length).filled
  by_cases nothing : candidates = []
  · -- No range has its first row here: that there is none is said before the word is read.
    subst nothing
    rw [add, add, addFrom_nil allFilled, addFrom_nil filled]
  · have positive : 0 < candidates.length := List.length_pos_iff.mpr nothing
    have everything : Selection.Selects (Text.trim "all") (candidates.map Game.name)
        ⟨0, (candidates.map Game.name).length⟩ := .everything (by decide +kernel)
    have range : Selection.Selects (Text.trim (Selection.rangeWord 1 candidates.length))
        (candidates.map Game.name) ⟨0, min candidates.length (candidates.map Game.name).length⟩ :=
      Selection.selects_range (by rwa [List.length_map]) positive fits absent
    rw [List.length_map, Nat.min_self] at range
    rw [List.length_map] at everything
    rw [list.add_of_selects allFilled nothing everything, list.add_of_selects filled nothing range]

end Adding

section Removing

theorem Keyed.without (keyed : list.Keyed) {block : Block} (ordered : block.start ≤ block.stop) :
    (list.without block).Keyed := by
  rw [← keyed.foldl_erase_block ordered]
  exact keyed.foldl_erase _

theorem mem_names_of_mem_without {block : Block} {name : String}
    (member : name ∈ (list.without block).names) : name ∈ list.names := by
  rw [names_without, List.mem_append] at member
  exact member.elim List.mem_of_mem_take List.mem_of_mem_drop

theorem Keyed.remove_of_selects (keyed : list.Keyed) {block : Block}
    (filled : ¬ (Text.trim selection).isEmpty)
    (selects : Selection.Selects (Text.trim selection) list.names block) :
    list.remove selection = .ok (list.without block, block.size) := by
  rw [remove, Change.result_eq_ok_iff, keyed.strike_of_selects filled selects]

/-- A row is cut out, and then the rows that have moved up to its place. -/
theorem without_without (within : i ≤ list.count) :
    (list.without ⟨i, i + 1⟩).without ⟨i, i + k⟩ = list.without ⟨i, i + (k + 1)⟩ := by
  have front : (list.entries.take i).length = i := List.length_take_of_le within
  have behind : i + 1 + k = i + (k + 1) := by omega
  simp only [Shortlist.without, mk.injEq]
  rw [List.take_left' front, List.drop_append, front, List.drop_of_length_le (by omega),
    List.nil_append, Nat.add_sub_cancel_left, List.drop_drop, behind]

/-- Induction on the number of rows: each removal leaves a shorter list whose row `i` is the next
one to go. -/
theorem Keyed.inTurn_remove (keyed : list.Keyed) (within : i + k ≤ list.count)
    (fits : i + k < UInt64.size) (absent : toString (i + 1) ∉ list.names) :
    inTurn remove list (List.replicate k (toString (i + 1))) =
      .ok (list.without ⟨i, i + k⟩, k) := by
  induction k generalizing list with
  | zero => simp [inTurn, Shortlist.without]
  | succ k ih =>
    have selects : Selection.Selects (Text.trim (toString (i + 1))) list.names ⟨i, i + 1⟩ :=
      Selection.selects_index (by rw [length_names]; omega) (by omega) absent
    have size : (⟨i, i + 1⟩ : Block).size = 1 := Nat.add_sub_cancel_left i 1
    have first : list.remove (toString (i + 1)) = .ok (list.without ⟨i, i + 1⟩, 1) := by
      rw [keyed.remove_of_selects (Selection.positional_toString (i + 1)).filled selects, size]
    have ordered : (⟨i, i + 1⟩ : Block).start ≤ (⟨i, i + 1⟩ : Block).stop := Nat.le_succ i
    have shorter := count_without ordered (show i + 1 ≤ list.count by omega)
    rw [size] at shorter
    have rest := ih (keyed.without ordered) (by omega) (by omega)
      fun member => absent (mem_names_of_mem_without member)
    rw [without_without (by omega)] at rest
    have both := inTurn_cons first rest
    rwa [Nat.add_comm 1 k] at both

/-- A range of numbers, and its first number as many times. -/
theorem Keyed.remove_range (keyed : list.Keyed) {first last : Nat} (positive : 1 ≤ first)
    (ordered : first ≤ last) (fits : last < UInt64.size) (within : first ≤ list.count)
    (absent : Selection.rangeWord first last ∉ list.names)
    (absentFirst : toString first ∉ list.names) :
    ∃ after, after.names = list.names.take (first - 1) ++ list.names.drop last ∧
      list.remove (Selection.rangeWord first last) =
        .ok (after, min last list.count - first + 1) ∧
      inTurn remove list (List.replicate (min last list.count - first + 1) (toString first)) =
        .ok (after, min last list.count - first + 1) := by
  obtain ⟨i, rfl⟩ := Nat.exists_eq_add_of_le' positive
  have selects := Selection.selects_range (by rw [length_names]; exact within) ordered fits absent
  rw [length_names] at selects
  have stop : min last list.count = i + (min last list.count - (i + 1) + 1) := by omega
  have size : (⟨i, min last list.count⟩ : Block).size = min last list.count - (i + 1) + 1 := by
    simp only [Block.size]
    omega
  have batch : list.remove (Selection.rangeWord (i + 1) last) =
      .ok (list.without ⟨i, min last list.count⟩, min last list.count - (i + 1) + 1) := by
    rw [keyed.remove_of_selects (Selection.positional_rangeWord (i + 1) last).filled selects, size]
  have bound : i + (min last list.count - (i + 1) + 1) ≤ list.count := by omega
  have single := keyed.inTurn_remove bound (by omega) absentFirst
  rw [← stop] at single
  refine ⟨_, ?_, batch, single⟩
  rw [names_without, ← length_names, ← List.drop_eq_drop_min]
  rfl

end Removing

/-- From any list that calls can lead to, a range does what its rows do one after another: adding
it lists the names of these rows in the same spellings and counts as many, and removing it, which
cuts these rows out, is removing its first row as often as it has rows. All is the range of all
rows. No name may be one of the words that stand for rows here, for a name goes before a number. -/
theorem ranges_match_single_rows (calls : List Call) (candidates : List Game) {first last : Nat}
    (positive : 1 ≤ first) (ordered : first ≤ last) (fits : last < UInt64.size) :
    let list := empty.run calls
    let range := Selection.rangeWord first last
    let names := candidates.map Game.name
    (first ≤ candidates.length → range ∉ names →
      (∀ row, first ≤ row → row ≤ min last candidates.length → toString row ∉ names) →
        ∃ after n, list.Enlisted ((names.take last).drop (first - 1)) after n ∧
          list.add range candidates = .ok (after, n) ∧
          inTurn (add · · candidates) list
            ((List.range' first (min last candidates.length - first + 1)).map toString) =
              .ok (after, n)) ∧
      (candidates.length < UInt64.size → Selection.rangeWord 1 candidates.length ∉ names →
        list.add "all" candidates =
          list.add (Selection.rangeWord 1 candidates.length) candidates) ∧
      (first ≤ list.count → range ∉ list.names → toString first ∉ list.names →
        ∃ after, after.names = list.names.take (first - 1) ++ list.names.drop last ∧
          list.remove range = .ok (after, min last list.count - first + 1) ∧
          inTurn remove list
            (List.replicate (min last list.count - first + 1) (toString first)) =
              .ok (after, min last list.count - first + 1)) := by
  intro list range names
  have keyed : list.Keyed := keyed_run calls
  refine ⟨?_, ?_, ?_⟩
  · intro within absent absents
    exact keyed.add_range positive ordered fits within absent absents
  · intro few absent
    exact list.add_all few absent
  · intro within absent absentFirst
    exact keyed.remove_range positive ordered fits within absent absentFirst

/-- The range goes past the end of both rows. Of the candidates in it the first is listed already,
and the other two are one name in two spellings. -/
theorem ranges_match_single_rows_of_spellings :
    let list := empty.run [.add "all" [Game.go, { Game.go with name := "Ra" }]]
    let candidates := [{ Game.go with name := "Catan" }, { Game.go with name := "GO" },
      { Game.azul with name := "AZUL" }, Game.azul]
    1 ≤ 2 ∧ 2 ≤ 9 ∧ 9 < UInt64.size ∧
      list.names = ["Go", "Ra"] ∧
      (∃ after, list.Enlisted ["GO", "AZUL", "Azul"] after 1 ∧
        after.names = ["AZUL", "Go", "Ra"] ∧ list.add "2-9" candidates = .ok (after, 1) ∧
        inTurn (add · · candidates) list ["2", "3", "4"] = .ok (after, 1)) ∧
      list.add "all" candidates = list.add "1-4" candidates ∧
      ∃ after, after.names = ["Go"] ∧ list.remove "2-9" = .ok (after, 1) ∧
        inTurn remove list ["2"] = .ok (after, 1) := by
  intro list candidates
  have positive : 1 ≤ 2 := by decide
  have ordered : 2 ≤ 9 := by decide
  have fits : 9 < UInt64.size := by decide
  have names : candidates.map Game.name = ["Catan", "GO", "AZUL", "Azul"] := rfl
  have listed : list.names = ["Go", "Ra"] := by decide +kernel
  have count : list.count = 2 := by decide +kernel
  have range : Selection.rangeWord 2 9 = "2-9" := by decide +kernel
  have whole : Selection.rangeWord 1 candidates.length = "1-4" := by decide +kernel
  have rows : (List.range' 2 (min 9 candidates.length - 2 + 1)).map toString = ["2", "3", "4"] := by
    decide +kernel
  have row : toString 2 = "2" := by decide +kernel
  obtain ⟨adding, all, removing⟩ := ranges_match_single_rows
    [.add "all" [Game.go, { Game.go with name := "Ra" }]] candidates positive ordered fits
  change 2 ≤ list.count → _ at removing
  rw [range, names, rows] at adding
  rw [whole, names] at all
  rw [range, listed, row, count] at removing
  have absents (row : Nat) (lower : 2 ≤ row) (upper : row ≤ 4) :
      toString row ∉ ["Catan", "GO", "AZUL", "Azul"] := by
    obtain rfl | rfl | rfl : row = 2 ∨ row = 3 ∨ row = 4 := by omega
    all_goals decide +kernel
  obtain ⟨longer, n, enlisted, addsAll, addsEach⟩ := adding (by decide) (by decide) absents
  obtain ⟨shorter, left, removesAll, removesEach⟩ := removing (by decide) (by decide) (by decide)
  have added : list.add "2-9" candidates =
      .ok (⟨[⟨"azul", "AZUL"⟩, ⟨"go", "Go"⟩, ⟨"ra", "Ra"⟩]⟩, 1) := by decide +kernel
  have removed : list.remove "2-9" = .ok (⟨[⟨"go", "Go"⟩]⟩, 1) := by decide +kernel
  cases added.symm.trans addsAll
  cases removed.symm.trans removesAll
  exact ⟨positive, ordered, fits, listed, ⟨_, enlisted, rfl, addsAll, addsEach⟩,
    all (by decide) (by decide), _, left, removesAll, removesEach⟩

end Shortlist

end GameShelf
