import GameShelf.Proofs.Ordering.Comparison
import GameShelf.Shortlist.Basic

namespace GameShelf.Shortlist
open Std

structure Keyed (list : Shortlist) : Prop where
  ascending : list.entries.Pairwise fun a b => Text.order a.key b.key = .lt
  lowered : ∀ entry ∈ list.entries, entry.key = Text.lower entry.name

theorem keyed_empty : empty.Keyed :=
  ⟨.nil, fun _ member => absurd member List.not_mem_nil⟩

theorem contains_iff {list : Shortlist} {name : String} :
    list.contains name ↔ ∃ entry ∈ list.entries, entry.key = Text.lower name := by
  simp [contains]

theorem contains_congr {list : Shortlist} {a b : String} (same : Text.lower a = Text.lower b) :
    list.contains a = list.contains b := by
  simp only [contains, same]

theorem Keyed.contains_iff_mem {list : Shortlist} {name : String} (keyed : list.Keyed) :
    list.contains name ↔ ∃ listed ∈ list.names, Text.lower listed = Text.lower name := by
  rw [contains_iff, names]
  constructor
  · rintro ⟨entry, member, found⟩
    exact ⟨entry.name, List.mem_map_of_mem member, keyed.lowered entry member ▸ found⟩
  · rintro ⟨listed, member, found⟩
    obtain ⟨entry, present, rfl⟩ := List.mem_map.mp member
    exact ⟨entry, present, (keyed.lowered entry present).trans found⟩

theorem Keyed.names_ascending {list : Shortlist} (keyed : list.Keyed) :
    list.names.Pairwise fun a b => Text.order (Text.lower a) (Text.lower b) = .lt := by
  rw [names, List.pairwise_map]
  refine keyed.ascending.imp_of_mem fun left right before => ?_
  rw [← keyed.lowered _ left, ← keyed.lowered _ right]
  exact before

theorem nodup_of_ascending {names : List String}
    (ascending : names.Pairwise fun a b => Text.order (Text.lower a) (Text.lower b) = .lt) :
    (names.map Text.lower).Nodup := by
  rw [List.Nodup, List.pairwise_map]
  refine ascending.imp fun before same => ?_
  rw [same] at before
  exact absurd (before.symm.trans ReflCmp.compare_self) (by decide)

/-- An entry with a new key joins the others; none of them is replaced. -/
theorem mem_insertEntry {entry other : Entry} {entries : List Entry}
    (absent : ∀ present ∈ entries, present.key ≠ entry.key) :
    other ∈ insertEntry entry entries ↔ other = entry ∨ other ∈ entries := by
  induction entries with
  | nil => simp [insertEntry]
  | cons first entries ih =>
    have rest := ih fun present member => absent present (List.mem_cons_of_mem first member)
    rw [insertEntry]
    cases outcome : Text.order entry.key first.key with
    | lt => simp
    | eq => exact absurd (LawfulEqCmp.eq_of_compare outcome).symm (absent first List.mem_cons_self)
    | gt => simp [rest, or_left_comm]

theorem ascending_insertEntry {entry : Entry} {entries : List Entry}
    (absent : ∀ present ∈ entries, present.key ≠ entry.key)
    (ascending : entries.Pairwise fun a b => Text.order a.key b.key = .lt) :
    (insertEntry entry entries).Pairwise fun a b => Text.order a.key b.key = .lt := by
  induction entries with
  | nil => simp [insertEntry]
  | cons first entries ih =>
    have others : ∀ present ∈ entries, present.key ≠ entry.key :=
      fun present member => absent present (List.mem_cons_of_mem first member)
    obtain ⟨behind, tail⟩ := List.pairwise_cons.mp ascending
    rw [insertEntry]
    cases outcome : Text.order entry.key first.key with
    | lt =>
      refine List.pairwise_cons.mpr ⟨?_, ascending⟩
      intro present member
      rcases List.mem_cons.mp member with rfl | later
      · exact outcome
      · exact TransCmp.lt_trans outcome (behind present later)
    | eq => exact absurd (LawfulEqCmp.eq_of_compare outcome).symm (absent first List.mem_cons_self)
    | gt =>
      refine List.pairwise_cons.mpr ⟨?_, ih others tail⟩
      intro present member
      rcases (mem_insertEntry others).mp member with rfl | later
      · exact OrientedCmp.lt_of_gt outcome
      · exact behind present later

theorem absent_of_not_contains {list : Shortlist} {name : String} (new : ¬ list.contains name) :
    ∀ present ∈ list.entries, present.key ≠ Text.lower name := by
  intro present member same
  exact new (contains_iff.mpr ⟨present, member, same⟩)

theorem mem_insertEntry_of_new {list : Shortlist} {name : String} {entry : Entry}
    (new : ¬ list.contains name) :
    entry ∈ insertEntry ⟨Text.lower name, name⟩ list.entries ↔
      entry = ⟨Text.lower name, name⟩ ∨ entry ∈ list.entries :=
  mem_insertEntry (absent_of_not_contains new)

theorem Keyed.insert {state : Shortlist × Nat} (keyed : state.1.Keyed) (name : String) :
    (insert state name).1.Keyed := by
  rw [Shortlist.insert]
  split
  · exact keyed
  · rename_i new
    refine ⟨ascending_insertEntry (absent_of_not_contains new) keyed.ascending, ?_⟩
    intro entry member
    rcases (mem_insertEntry_of_new new).mp member with rfl | old
    · rfl
    · exact keyed.lowered entry old

theorem mem_names_insert {state : Shortlist × Nat} {name listed : String} :
    listed ∈ (insert state name).1.names ↔
      listed ∈ state.1.names ∨ ¬ state.1.contains name ∧ listed = name := by
  rw [insert]
  split
  · rename_i old
    simp [old]
  · rename_i new
    simp only [names, List.mem_map, mem_insertEntry_of_new new]
    constructor
    · rintro ⟨entry, rfl | old, rfl⟩
      · exact Or.inr ⟨new, rfl⟩
      · exact Or.inl ⟨entry, old, rfl⟩
    · rintro (⟨entry, old, rfl⟩ | ⟨_, rfl⟩)
      · exact ⟨entry, Or.inr old, rfl⟩
      · exact ⟨_, Or.inl rfl, rfl⟩

theorem contains_insert {state : Shortlist × Nat} {name other : String} :
    (insert state name).1.contains other ↔
      state.1.contains other ∨ Text.lower name = Text.lower other := by
  rw [insert]
  split
  · rename_i old
    constructor
    · exact Or.inl
    · rintro (present | same)
      · exact present
      · rwa [← contains_congr same]
  · rename_i new
    simp only [contains_iff, mem_insertEntry_of_new new]
    constructor
    · rintro ⟨entry, rfl | old, found⟩
      · exact Or.inr found
      · exact Or.inl ⟨entry, old, found⟩
    · rintro (⟨entry, old, found⟩ | same)
      · exact ⟨entry, Or.inr old, found⟩
      · exact ⟨_, Or.inl rfl, same⟩

/-- A name is there after several were listed in turn if it was there before, or if its key was new
and it is the first among them with that key. -/
theorem mem_names_foldl_insert {state : Shortlist × Nat} {names : List String} {listed : String} :
    listed ∈ (names.foldl insert state).1.names ↔ listed ∈ state.1.names ∨
      ¬ state.1.contains listed ∧
        names.find? (fun name => Text.lower name == Text.lower listed) = some listed := by
  induction names generalizing state with
  | nil => simp
  | cons name names ih =>
    rw [List.foldl_cons, ih, mem_names_insert, contains_insert]
    by_cases same : Text.lower name = Text.lower listed
    · have together : state.1.contains name = state.1.contains listed := contains_congr same
      have first : (name :: names).find? (fun name => Text.lower name == Text.lower listed) =
          some name := by simp [same]
      rw [first, together, Option.some_inj, eq_comm (a := name)]
      simp [same]
    · have apart : listed ≠ name := fun equal => same (equal ▸ rfl)
      have later : (name :: names).find? (fun name => Text.lower name == Text.lower listed) =
          names.find? fun name => Text.lower name == Text.lower listed := by simp [same]
      rw [later]
      simp [same, apart]

theorem Keyed.foldl_insert {state : Shortlist × Nat} (keyed : state.1.Keyed)
    (names : List String) : (names.foldl Shortlist.insert state).1.Keyed := by
  induction names generalizing state with
  | nil => exact keyed
  | cons name names ih => exact ih (keyed.insert name)

theorem Keyed.erase {list : Shortlist} (keyed : list.Keyed) (name : String) :
    (erase list name).Keyed := by
  refine ⟨keyed.ascending.filter _, ?_⟩
  intro entry member
  exact keyed.lowered entry (List.mem_filter.mp member).1

theorem mem_names_erase {list : Shortlist} {name listed : String}
    (member : listed ∈ (erase list name).names) : listed ∈ list.names := by
  obtain ⟨entry, kept, rfl⟩ := List.mem_map.mp member
  exact List.mem_map_of_mem (List.mem_filter.mp kept).1

theorem Keyed.foldl_erase {list : Shortlist} (keyed : list.Keyed) (names : List String) :
    (names.foldl Shortlist.erase list).Keyed := by
  induction names generalizing list with
  | nil => exact keyed
  | cons name names ih => exact ih (keyed.erase name)

theorem mem_names_foldl_erase {list : Shortlist} {names : List String} {listed : String}
    (member : listed ∈ (names.foldl erase list).names) : listed ∈ list.names := by
  induction names generalizing list with
  | nil => exact member
  | cons name names ih => exact mem_names_erase (ih member)

end GameShelf.Shortlist
