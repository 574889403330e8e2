import GameShelf.Proofs.Session.Positions
import GameShelf.Proofs.Shortlist.Addition

namespace GameShelf
open Std

/-- Whether two names are the same up to letter case. -/
def sameName (a b : String) : Bool :=
  Text.lower a == Text.lower b

theorem sameName_iff {a b : String} : sameName a b ↔ Text.lower a = Text.lower b :=
  beq_iff_eq

/-- The names without those that come after a name that is the same. -/
def firstSpellings (names : List String) : List String :=
  names.eraseDupsBy sameName

theorem firstSpellings_cons (name : String) (rest : List String) :
    firstSpellings (name :: rest) =
      name :: firstSpellings (rest.filter fun other => !sameName other name) := by
  simp [firstSpellings, List.eraseDupsBy_cons]

/-- The first name stays, and what differs from it is looked at in the same way. -/
theorem firstSpellings_induction {motive : List String → Prop} (nil : motive [])
    (cons : ∀ name rest, motive (rest.filter fun other => !sameName other name) →
      motive (name :: rest)) : ∀ names, motive names
  | [] => nil
  | name :: rest => cons name rest (firstSpellings_induction nil cons _)
termination_by names => names.length
decreasing_by
  have shorter := List.length_filter_le (fun other => !sameName other name) rest
  simp only [List.length_cons]
  omega

theorem firstSpellings_sublist (names : List String) : (firstSpellings names).Sublist names := by
  induction names using firstSpellings_induction with
  | nil => exact .slnil
  | cons name rest ih =>
    rw [firstSpellings_cons]
    exact (ih.trans List.filter_sublist).cons_cons name

theorem pairwise_firstSpellings (names : List String) :
    (firstSpellings names).Pairwise fun a b => Text.lower a ≠ Text.lower b := by
  induction names using firstSpellings_induction with
  | nil => exact .nil
  | cons name rest ih =>
    rw [firstSpellings_cons]
    refine List.pairwise_cons.mpr ⟨?_, ih⟩
    intro other member same
    obtain ⟨_, differs⟩ := List.mem_filter.mp ((firstSpellings_sublist _).subset member)
    rw [sameName_iff.mpr same.symm] at differs
    cases differs

/-- A name stays if it is the first among those that are the same. -/
theorem mem_firstSpellings {name : String} {names : List String} :
    name ∈ firstSpellings names ↔ names.find? (sameName · name) = some name := by
  induction names using firstSpellings_induction with
  | nil => simp [firstSpellings]
  | cons first rest ih =>
    rw [firstSpellings_cons, List.mem_cons, ih, List.find?_filter]
    by_cases same : sameName first name
    · have atHead : (first :: rest).find? (sameName · name) = some first := by simp [same]
      have turned : sameName name first := sameName_iff.mpr (sameName_iff.mp same).symm
      rw [atHead, Option.some_inj, eq_comm]
      refine or_iff_left fun found => ?_
      have passes := List.find?_some found
      simp [turned] at passes
    · have apart : name ≠ first := by
        rintro rfl
        exact same (sameName_iff.mpr rfl)
      have behind : (first :: rest).find? (sameName · name) = rest.find? (sameName · name) := by
        simp [same]
      have whole : (fun other => decide ((!sameName other first) = true ∧ sameName other name)) =
          (sameName · name) := by
        funext other
        by_cases joins : sameName other name
        · have differs : ¬ sameName other first := by
            intro toFirst
            rw [sameName_iff] at toFirst joins same
            exact same (toFirst.symm.trans joins)
          simp [joins, differs]
        · simp [joins]
      rw [behind, whole]
      exact or_iff_right apart

/-- Names that ascend without regard to letter case are determined by which they are. -/
theorem eq_of_ascending_of_mem_iff {xs ys : List String}
    (ascendingXs : xs.Pairwise fun a b => Text.order (Text.lower a) (Text.lower b) = .lt)
    (ascendingYs : ys.Pairwise fun a b => Text.order (Text.lower a) (Text.lower b) = .lt)
    (same : ∀ name, name ∈ xs ↔ name ∈ ys) : xs = ys := by
  have perm : xs.Perm ys :=
    (List.perm_ext_iff_of_nodup (Shortlist.nodup_of_ascending ascendingXs).of_map
      (Shortlist.nodup_of_ascending ascendingYs).of_map).mpr same
  refine perm.eq_of_pairwise ?_ ascendingXs ascendingYs
  intro a b _ _ before after
  have turned := OrientedCmp.gt_of_lt before
  rw [after] at turned
  cases turned

namespace SortOrder

theorem compare_standard (a b : Game) :
    standard.compare a b = Text.order (Text.lower a.name) (Text.lower b.name) :=
  rfl

theorem find?_name_sort (games : List Game) (name : String) :
    ((standard.sort games).map Game.name).find? (sameName · name) =
      (games.map Game.name).find? (sameName · name) := by
  rw [List.find?_map, List.find?_map]
  congr 1
  refine (stableSort_sort standard games).find?_eq fun a fits b => ?_
  have key : Text.lower a.name = Text.lower name := sameName_iff.mp fits
  rw [compare_standard, key, Function.comp_apply, sameName, Bool.eq_iff_iff, beq_iff_eq, beq_iff_eq]
  constructor
  · intro same
    rw [same]
    exact ReflCmp.compare_self
  · intro tied
    exact (LawfulEqCmp.eq_of_compare tied).symm

theorem ascending_firstSpellings_sort (games : List Game) :
    (firstSpellings ((standard.sort games).map Game.name)).Pairwise
      fun a b => Text.order (Text.lower a) (Text.lower b) = .lt := by
  have ordered : ((standard.sort games).map Game.name).Pairwise
      fun a b => Text.order (Text.lower a) (Text.lower b) ≠ .gt :=
    List.pairwise_map.mpr (stableSort_sort standard games).ordered
  refine ((ordered.sublist (firstSpellings_sublist _)).and (pairwise_firstSpellings _)).imp ?_
  rintro a b ⟨notAfter, differs⟩
  cases outcome : Text.order (Text.lower a) (Text.lower b) with
  | lt => rfl
  | eq => exact absurd (LawfulEqCmp.eq_of_compare outcome) differs
  | gt => exact absurd outcome notAfter

end SortOrder

namespace Shortlist

theorem mem_names_insertAll_empty {names : List String} {name : String} :
    name ∈ (empty.insertAll names).1.names ↔ names.find? (sameName · name) = some name := by
  rw [insertAll, mem_names_foldl_insert]
  simp [empty, Shortlist.names, contains, sameName]

/-- Inserting names one by one in their places and sorting them at once come to the same. -/
theorem names_insertAll_empty (games : List Game) :
    (empty.insertAll (games.map Game.name)).1.names =
      firstSpellings ((SortOrder.standard.sort games).map Game.name) := by
  have keyed : ((games.map Game.name).foldl insert (empty, 0)).1.Keyed :=
    Keyed.foldl_insert keyed_empty _
  refine eq_of_ascending_of_mem_iff keyed.names_ascending
    (SortOrder.ascending_firstSpellings_sort games) fun name => ?_
  refine mem_names_insertAll_empty.trans ?_
  rw [mem_firstSpellings, SortOrder.find?_name_sort]

variable {selection : String}

theorem filled_of_isAll (all : Selection.isAll (Text.trim selection)) :
    ¬ (Text.trim selection).isEmpty := by
  intro blank
  rw [String.isEmpty_iff.mp blank] at all
  exact absurd all (by decide)

theorem addFrom_empty_of_isAll (all : Selection.isAll (Text.trim selection))
    (candidates : List Game) :
    (empty.addFrom selection candidates).1 =
      (empty.insertAll (candidates.map Game.name)).1 := by
  have filled := filled_of_isAll all
  by_cases nothing : candidates = []
  · rw [nothing, addFrom_nil filled]
    rfl
  · rw [addFrom_of_everything filled nothing all]
    rfl

end Shortlist

theorem Session.list_runLine_listAdd (session : Session) (style : Style) (files : FileTree)
    {line selection : String} (read : Command.parse line = .ok (.listAdd selection)) :
    (session.runLine style files line).2.1.list =
      (session.list.addFrom selection session.view).1 := by
  simp only [runLine, read, run, answer]
  rcases session.list.addFrom selection session.view with ⟨list, error | n⟩ <;> rfl

namespace Shortlist

/-- Adding everything to an empty list gives the names of the candidates sorted by name, without
those that are the same as an earlier one. Each is spelled as in the first candidate of that name,
and a session with an empty list comes to this from whatever view it has. -/
theorem add_all_sorts_by_name {selection : String}
    (all : Selection.isAll (Text.trim selection)) (candidates : List Game) :
    let after := (empty.addFrom selection candidates).1
    after.names = firstSpellings ((SortOrder.standard.sort candidates).map Game.name) ∧
      (∀ name, name ∈ after.names ↔
        (candidates.map Game.name).find? (sameName · name) = some name) ∧
      (candidates ≠ [] → empty.add selection candidates = .ok (after, after.count)) ∧
      ∀ (session : Session) (style : Style) (files : FileTree),
        session.list = empty → session.view = candidates →
          (session.runLine style files "list add all").2.1.list = after := by
  intro after
  have listed : after = (empty.insertAll (candidates.map Game.name)).1 :=
    addFrom_empty_of_isAll all candidates
  refine ⟨?_, ?_, ?_, ?_⟩
  · rw [listed, names_insertAll_empty]
  · intro name
    rw [listed, mem_names_insertAll_empty]
  · intro nonempty
    have counted := count_insertAll empty (candidates.map Game.name)
    have added : empty.addFrom selection candidates = _ :=
      addFrom_of_everything (filled_of_isAll all) nonempty all
    rw [add, Change.result_eq_ok_iff, added, enlist, listed, ← counted]
    simp [empty, count]
  · intro session style files fresh view
    have read : Command.parse "list add all" = .ok (.listAdd "all") := by decide +kernel
    rw [session.list_runLine_listAdd style files read, fresh, view, listed]
    exact addFrom_empty_of_isAll (by decide) candidates

/-- `Go` comes before `GO` among the candidates, and `Azul` before both in the list. -/
theorem add_all_sorts_by_name_of_spellings :
    let candidates := [Game.go, { Game.go with name := "GO" }, Game.azul]
    Selection.isAll (Text.trim " All ") ∧
      (empty.addFrom " All " candidates).1.names = ["Azul", "Go"] ∧
      firstSpellings ((SortOrder.standard.sort candidates).map Game.name) = ["Azul", "Go"] := by
  intro candidates
  have all : Selection.isAll (Text.trim " All ") := by decide +kernel
  obtain ⟨sorted, _⟩ := add_all_sorts_by_name all candidates
  have names : (empty.addFrom " All " candidates).1.names = ["Azul", "Go"] := by decide +kernel
  exact ⟨all, names, sorted.symm.trans names⟩

end Shortlist

end GameShelf
