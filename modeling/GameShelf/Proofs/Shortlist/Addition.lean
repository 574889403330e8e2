import GameShelf.Proofs.Shortlist.Resolution
import GameShelf.Proofs.Shortlist.Spelling
import Mathlib.Data.Finset.Card

namespace GameShelf.Shortlist

variable {list after : Shortlist} {selection : String} {candidates : List Game} {block : Block}
  {n : Nat}

/-- `after` is the list with the chosen names listed as well. Each new key has the spelling that is
the first of the key among them, and `n` counts the new keys. -/
structure Enlisted (list : Shortlist) (chosen : List String) (after : Shortlist) (n : Nat) :
    Prop where
  keys : ∀ key, key ∈ after.names.map Text.lower ↔
    key ∈ list.names.map Text.lower ∨ key ∈ chosen.map Text.lower
  kept : ∀ name ∈ list.names, name ∈ after.names
  spelled : ∀ name ∈ after.names, Text.lower name ∉ list.names.map Text.lower →
    chosen.find? (fun other => Text.lower other == Text.lower name) = some name
  growth : list.count + n = after.count
  counted : n = ((chosen.map Text.lower).toFinset \ (list.names.map Text.lower).toFinset).card

theorem Keyed.contains_iff_mem_keys (keyed : list.Keyed) {name : String} :
    list.contains name ↔ Text.lower name ∈ list.names.map Text.lower := by
  rw [keyed.contains_iff_mem, List.mem_map]

theorem length_insertEntry {entry : Entry} {entries : List Entry}
    (absent : ∀ present ∈ entries, present.key ≠ entry.key) :
    (insertEntry entry entries).length = entries.length + 1 := by
  induction entries with
  | nil => rfl
  | cons first entries ih =>
    have rest := ih fun present member => absent present (List.mem_cons_of_mem first member)
    rw [insertEntry]
    cases outcome : Text.order entry.key first.key with
    | lt => rfl
    | eq =>
      have same := Std.LawfulEqCmp.eq_of_compare outcome
      exact absurd same.symm (absent first List.mem_cons_self)
    | gt => simp only [List.length_cons, rest]

/-- What a step adds to the count of new names, it adds to the list. -/
theorem count_insert (state : Shortlist × Nat) (name : String) :
    state.1.count + (insert state name).2 = (insert state name).1.count + state.2 := by
  rw [insert]
  split
  · rfl
  · rename_i new
    have longer : (insertEntry ⟨Text.lower name, name⟩ state.1.entries).length =
        state.1.entries.length + 1 := length_insertEntry (absent_of_not_contains new)
    simp only [count, longer]
    omega

theorem count_foldl_insert (names : List String) (state : Shortlist × Nat) :
    state.1.count + (names.foldl insert state).2 =
      (names.foldl insert state).1.count + state.2 := by
  induction names generalizing state with
  | nil => rfl
  | cons name names ih =>
    have step := count_insert state name
    have rest := ih (insert state name)
    rw [List.foldl_cons]
    omega

theorem count_insertAll (list : Shortlist) (names : List String) :
    list.count + (list.insertAll names).2 = (list.insertAll names).1.count :=
  count_foldl_insert names (list, 0)

theorem contains_foldl_insert {names : List String} {state : Shortlist × Nat} {other : String} :
    (names.foldl insert state).1.contains other ↔
      state.1.contains other ∨ ∃ name ∈ names, Text.lower name = Text.lower other := by
  induction names generalizing state with
  | nil => simp
  | cons name names ih =>
    rw [List.foldl_cons, ih, contains_insert, or_assoc]
    simp only [List.mem_cons, exists_eq_or_imp]

theorem card_keys (keyed : list.Keyed) :
    (list.names.map Text.lower).toFinset.card = list.count := by
  rw [List.toFinset_card_of_nodup (nodup_of_ascending keyed.names_ascending), List.length_map,
    names, List.length_map, count]

/-- Listing names in turn: by induction on them, with the keys and the count after each. -/
theorem Keyed.enlisted_insertAll (keyed : list.Keyed) (chosen : List String) :
    list.Enlisted chosen (list.insertAll chosen).1 (list.insertAll chosen).2 := by
  have keyedAfter : (list.insertAll chosen).1.Keyed := by
    rw [insertAll]
    exact keyed.foldl_insert chosen
  have member {name : String} : name ∈ (list.insertAll chosen).1.names ↔ _ :=
    mem_names_foldl_insert
  have grown := count_insertAll list chosen
  have keys (key : String) : key ∈ (list.insertAll chosen).1.names.map Text.lower ↔
      key ∈ list.names.map Text.lower ∨ key ∈ chosen.map Text.lower := by
    constructor
    · intro present
      obtain ⟨name, listed, rfl⟩ := List.mem_map.mp present
      rcases member.mp listed with old | ⟨_, first⟩
      · exact Or.inl (List.mem_map_of_mem old)
      · exact Or.inr (List.mem_map_of_mem (List.mem_of_find?_eq_some first))
    · rintro (old | new)
      · obtain ⟨name, listed, rfl⟩ := List.mem_map.mp old
        exact List.mem_map_of_mem (member.mpr (Or.inl listed))
      · obtain ⟨name, picked, rfl⟩ := List.mem_map.mp new
        rw [← keyedAfter.contains_iff_mem_keys]
        exact contains_foldl_insert.mpr (Or.inr ⟨name, picked, rfl⟩)
  -- No step of the count knows the whole block: the keys before and after it give the number.
  have union : ((list.insertAll chosen).1.names.map Text.lower).toFinset =
      (chosen.map Text.lower).toFinset ∪ (list.names.map Text.lower).toFinset := by
    ext key
    rw [List.mem_toFinset, keys, Finset.mem_union, List.mem_toFinset, List.mem_toFinset, or_comm]
  refine ⟨keys, ?_, ?_, grown, ?_⟩
  · intro name old
    exact member.mpr (Or.inl old)
  · intro name present new
    rcases member.mp present with old | ⟨_, first⟩
    · exact absurd (List.mem_map_of_mem old) new
    · exact first
  · have split := Finset.card_sdiff_add_card (chosen.map Text.lower).toFinset
      (list.names.map Text.lower).toFinset
    rw [← union, card_keys keyedAfter, card_keys keyed] at split
    omega

theorem addFrom_of_selects (filled : ¬ (Text.trim selection).isEmpty) (nonempty : candidates ≠ [])
    (selects : Selection.Selects (Text.trim selection) (candidates.map Game.name) block) :
    list.addFrom selection candidates = list.enlist ((block.of candidates).map Game.name) := by
  cases selects with
  | everything all =>
    rw [addFrom_of_everything filled nonempty all, List.length_map, Block.of_whole]
  | resolved specific resolves =>
    have resolved := Selection.resolve_of_resolves resolves
    rw [addFrom_of_resolved filled nonempty specific resolved, Block.of_map]

end GameShelf.Shortlist
