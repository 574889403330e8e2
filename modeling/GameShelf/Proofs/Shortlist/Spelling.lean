import GameShelf.Proofs.Shortlist.History
import Mathlib.Data.List.Nodup

namespace GameShelf.Shortlist

/-- The call that brought a spelling in: the key of the spelling was absent before it, has been
present ever since, and the spelling is the first with that key among the names that it picked. -/
def Introduced (calls : List Call) (listed : String) : Prop :=
  ∃ before selection candidates after, calls = before ++ .add selection candidates :: after ∧
    ¬ (empty.run before).contains listed ∧
    (picked selection candidates).find?
      (fun name => Text.lower name == Text.lower listed) = some listed ∧
    ∀ middle, middle <+: after →
      (empty.run (before ++ .add selection candidates :: middle)).contains listed

theorem Keyed.eq_of_lower_eq {list : Shortlist} (keyed : list.Keyed) {a b : String}
    (left : a ∈ list.names) (right : b ∈ list.names) (same : Text.lower a = Text.lower b) :
    a = b :=
  List.inj_on_of_nodup_map (nodup_of_ascending keyed.names_ascending) left right same

/-- A listed spelling stays as long as its key does. -/
theorem Keyed.mem_names_call_of_contains {list : Shortlist} (keyed : list.Keyed) {call : Call}
    {listed : String} (old : listed ∈ list.names) (stays : (list.call call).1.contains listed) :
    listed ∈ (list.call call).1.names := by
  obtain ⟨other, member, same⟩ := (keyed.call call).contains_iff_mem.mp stays
  rcases mem_names_call member with present | ⟨_, _, _, new, _⟩
  · exact keyed.eq_of_lower_eq present old same ▸ member
  · refine absurd ?_ new
    rw [contains_congr same]
    exact keyed.contains_iff_mem.mpr ⟨listed, old, rfl⟩

theorem mem_names_run_add {before : List Call} {selection : String} {candidates : List Game}
    {listed : String} (new : ¬ (empty.run before).contains listed)
    (first : (picked selection candidates).find?
      (fun name => Text.lower name == Text.lower listed) = some listed) :
    listed ∈ (empty.run (before ++ [.add selection candidates])).names := by
  rw [run_concat, call_add_fst]
  exact mem_names_foldl_insert.mpr (Or.inr ⟨new, first⟩)

/-- Induction on the calls since the spelling came in: none of them replaces it. -/
theorem mem_names_of_introduced {calls : List Call} {listed : String}
    (introduced : Introduced calls listed) : listed ∈ (empty.run calls).names := by
  obtain ⟨before, selection, candidates, after, rfl, new, first, present⟩ := introduced
  induction after using List.reverseRecOn with
  | nil => exact mem_names_run_add new first
  | append_singleton after call ih =>
    have earlier : listed ∈ (empty.run (before ++ .add selection candidates :: after)).names :=
      ih fun middle within => present middle (within.trans (List.prefix_append after [call]))
    have stays := present _ List.prefix_rfl
    rw [← List.cons_append, ← List.append_assoc, run_concat] at stays ⊢
    exact (keyed_run _).mem_names_call_of_contains earlier stays

/-- Induction on the run: a spelling that is there after a call was there before, or the call
brought it in. -/
theorem introduced_of_mem_names {calls : List Call} {listed : String}
    (member : listed ∈ (empty.run calls).names) : Introduced calls listed := by
  induction calls using List.reverseRecOn with
  | nil => exact absurd member List.not_mem_nil
  | append_singleton calls call ih =>
    have there : (empty.run (calls ++ [call])).contains listed :=
      (keyed_run (calls ++ [call])).contains_iff_mem.mpr ⟨listed, member, rfl⟩
    rw [run_concat] at member
    rcases mem_names_call member with old | ⟨selection, candidates, rfl, new, first⟩
    · obtain ⟨before, selection, candidates, after, rfl, new, first, present⟩ := ih old
      refine ⟨before, selection, candidates, after ++ [call], by simp, new, first, ?_⟩
      intro middle within
      rcases List.prefix_concat_iff.mp within with rfl | earlier
      · simpa using there
      · exact present middle earlier
    · refine ⟨calls, selection, candidates, [], rfl, new, first, ?_⟩
      intro middle within
      rw [List.prefix_nil.mp within]
      exact there

/-- After every run the names ascend strictly without regard to case, a name is found exactly if a
listed one agrees with it up to case, each listed spelling is the one that brought its key in, and
a call that fails changes nothing. -/
theorem listed_names_of_run (calls : List Call) :
    ((empty.run calls).names.Pairwise
        fun a b => Text.order (Text.lower a) (Text.lower b) = .lt) ∧
      ((empty.run calls).names.map Text.lower).Nodup ∧
      (empty.run calls).count = (empty.run calls).names.length ∧
      ((empty.run calls).isEmpty ↔ (empty.run calls).count = 0) ∧
      (∀ name, (empty.run calls).contains name ↔
        ∃ listed ∈ (empty.run calls).names, Text.lower listed = Text.lower name) ∧
      (∀ listed, listed ∈ (empty.run calls).names ↔ Introduced calls listed) ∧
      ∀ call error, ((empty.run calls).call call).2 = .error error →
        ((empty.run calls).call call).1 = empty.run calls := by
  have keyed := keyed_run calls
  have ascending := keyed.names_ascending
  refine ⟨ascending, nodup_of_ascending ascending, ?_, ?_, fun _ => keyed.contains_iff_mem, ?_, ?_⟩
  · rw [count, names, List.length_map]
  · rw [isEmpty, count, List.isEmpty_iff, List.length_eq_zero_iff]
  · exact fun _ => ⟨introduced_of_mem_names, mem_names_of_introduced⟩
  · exact fun _ _ => call_of_error

end GameShelf.Shortlist
