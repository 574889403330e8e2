import GameShelf.Proofs.Shortlist.Keyed
import Mathlib.Data.List.Infix

namespace GameShelf.Shortlist

/-- A call that may change a list. -/
inductive Call
  | add (selection : String) (candidates : List Game)
  | remove (selection : String)
  | clear

/-- The list after a call, and the answer: the count of names that came or went, or an error.
Clearing tells no count. -/
def call (list : Shortlist) : Call → Shortlist × Except ShortlistError (Option Nat)
  | .add selection candidates =>
    let (list, result) := list.addFrom selection candidates
    (list, result.map some)
  | .remove selection =>
    let (list, result) := list.strike selection
    (list, result.map some)
  | .clear => (empty, .ok none)

def run (list : Shortlist) (calls : List Call) : Shortlist :=
  calls.foldl (fun list call => (list.call call).1) list

/-- The names that a selection picks from the candidates; none if it picks nothing. -/
def picked (selection : String) (candidates : List Game) : List String :=
  let word := Text.trim selection
  let names := candidates.map Game.name
  if word.isEmpty then []
  else if Selection.isAll word then names
  else match Selection.resolve word names with
    | .error _ => []
    | .ok block => block.of names

theorem run_concat (list : Shortlist) (calls : List Call) (call : Call) :
    list.run (calls ++ [call]) = ((list.run calls).call call).1 := by
  simp [run]

theorem picked_nil (selection : String) : picked selection [] = [] := by
  simp only [picked, List.map_nil]
  split
  · rfl
  split
  · rfl
  split
  · rfl
  · simp [Block.of]

theorem Change.result_eq_ok_iff {change : Change} {after : Shortlist} {n : Nat} :
    change.result = .ok (after, n) ↔ change = (after, .ok n) := by
  rcases change with ⟨list, error | m⟩ <;> simp [Change.result]

theorem Change.result_eq_error_iff {change : Change} {error : ShortlistError} :
    change.result = .error error ↔ change.2 = .error error := by
  rcases change with ⟨list, cause | m⟩ <;> simp [Change.result]

section Outcomes

variable {list : Shortlist} {selection : String} {candidates : List Game}

theorem addFrom_of_blank (blank : (Text.trim selection).isEmpty) :
    list.addFrom selection candidates = (list, .error .emptyInput) := by
  simp only [addFrom, blank, if_true]

theorem addFrom_nil (filled : ¬ (Text.trim selection).isEmpty) :
    list.addFrom selection [] = (list, .error .noCandidates) := by
  simp only [addFrom, filled, List.isEmpty_nil, if_true, if_false, Bool.false_eq_true]

theorem addFrom_of_everything (filled : ¬ (Text.trim selection).isEmpty)
    (nonempty : candidates ≠ []) (all : Selection.isAll (Text.trim selection)) :
    list.addFrom selection candidates = list.enlist (candidates.map Game.name) := by
  simp only [addFrom, filled, List.isEmpty_iff, nonempty, all, if_true, if_false,
    Bool.false_eq_true]

theorem addFrom_of_refused {error : ShortlistError} (filled : ¬ (Text.trim selection).isEmpty)
    (nonempty : candidates ≠ []) (specific : ¬ Selection.isAll (Text.trim selection))
    (refused : Selection.resolve (Text.trim selection) (candidates.map Game.name) = .error error) :
    list.addFrom selection candidates = (list, .error error) := by
  simp only [addFrom, filled, List.isEmpty_iff, nonempty, specific, refused, if_false,
    Bool.false_eq_true]

theorem addFrom_of_resolved {block : Block} (filled : ¬ (Text.trim selection).isEmpty)
    (nonempty : candidates ≠ []) (specific : ¬ Selection.isAll (Text.trim selection))
    (resolved : Selection.resolve (Text.trim selection) (candidates.map Game.name) = .ok block) :
    list.addFrom selection candidates = list.enlist (block.of (candidates.map Game.name)) := by
  simp only [addFrom, filled, List.isEmpty_iff, nonempty, specific, resolved, if_false,
    Bool.false_eq_true]

theorem strike_of_blank (blank : (Text.trim selection).isEmpty) :
    list.strike selection = (list, .error .emptyInput) := by
  simp only [strike, blank, if_true]

theorem strike_of_everything (filled : ¬ (Text.trim selection).isEmpty)
    (all : Selection.isAll (Text.trim selection)) :
    list.strike selection = (empty, .ok list.count) := by
  simp only [strike, filled, all, if_true, if_false, Bool.false_eq_true]

theorem strike_of_nothing (filled : ¬ (Text.trim selection).isEmpty)
    (specific : ¬ Selection.isAll (Text.trim selection)) (nothing : list.isEmpty) :
    list.strike selection = (list, .error .emptyList) := by
  simp only [strike, filled, specific, nothing, if_true, if_false, Bool.false_eq_true]

theorem strike_of_refused {error : ShortlistError} (filled : ¬ (Text.trim selection).isEmpty)
    (specific : ¬ Selection.isAll (Text.trim selection)) (some : ¬ list.isEmpty)
    (refused : Selection.resolve (Text.trim selection) list.names = .error error) :
    list.strike selection = (list, .error error) := by
  simp only [strike, filled, specific, some, refused, if_false, Bool.false_eq_true]

theorem strike_of_resolved {block : Block} (filled : ¬ (Text.trim selection).isEmpty)
    (specific : ¬ Selection.isAll (Text.trim selection)) (some : ¬ list.isEmpty)
    (resolved : Selection.resolve (Text.trim selection) list.names = .ok block) :
    list.strike selection = ((block.of list.names).foldl erase list, .ok block.size) := by
  simp only [strike, filled, specific, some, resolved, if_false, Bool.false_eq_true]

end Outcomes

/-- Adding fails and leaves the list alone, or lists what the selection picks. -/
theorem addFrom_cases (list : Shortlist) (selection : String) (candidates : List Game) :
    (picked selection candidates = [] ∧
        ∃ error, list.addFrom selection candidates = (list, .error error)) ∨
      list.addFrom selection candidates = list.enlist (picked selection candidates) := by
  by_cases blank : (Text.trim selection).isEmpty
  · exact Or.inl ⟨by simp [picked, blank], _, addFrom_of_blank blank⟩
  by_cases nothing : candidates = []
  · subst nothing
    exact Or.inl ⟨picked_nil selection, _, addFrom_nil blank⟩
  simp only [picked, blank, if_false, Bool.false_eq_true]
  by_cases everything : Selection.isAll (Text.trim selection)
  · rw [if_pos everything]
    exact Or.inr (addFrom_of_everything blank nothing everything)
  rw [if_neg everything]
  cases outcome : Selection.resolve (Text.trim selection) (candidates.map Game.name) with
  | error error => exact Or.inl ⟨rfl, _, addFrom_of_refused blank nothing everything outcome⟩
  | ok block => exact Or.inr (addFrom_of_resolved blank nothing everything outcome)

/-- Removing fails and leaves the list alone, or erases some names, or drops them all. -/
theorem strike_cases (list : Shortlist) (selection : String) :
    (∃ error, list.strike selection = (list, .error error)) ∨
      (∃ (names : List String) (n : Nat),
          list.strike selection = (names.foldl erase list, .ok n)) ∨
      ∃ n, list.strike selection = (empty, .ok n) := by
  by_cases blank : (Text.trim selection).isEmpty
  · exact Or.inl ⟨_, strike_of_blank blank⟩
  by_cases everything : Selection.isAll (Text.trim selection)
  · exact Or.inr (Or.inr ⟨_, strike_of_everything blank everything⟩)
  by_cases nothing : list.isEmpty
  · exact Or.inl ⟨_, strike_of_nothing blank everything nothing⟩
  cases outcome : Selection.resolve (Text.trim selection) list.names with
  | error error => exact Or.inl ⟨_, strike_of_refused blank everything nothing outcome⟩
  | ok block => exact Or.inr (Or.inl ⟨_, _, strike_of_resolved blank everything nothing outcome⟩)

theorem eq_of_addFrom_error {list after : Shortlist} {selection : String} {candidates : List Game}
    {error : ShortlistError} (failed : list.addFrom selection candidates = (after, .error error)) :
    after = list := by
  rcases list.addFrom_cases selection candidates with ⟨_, _, refused⟩ | done
  · rw [refused] at failed
    exact (congrArg Prod.fst failed).symm
  · simp [done, enlist] at failed

theorem eq_of_strike_error {list after : Shortlist} {selection : String} {error : ShortlistError}
    (failed : list.strike selection = (after, .error error)) : after = list := by
  rcases list.strike_cases selection with ⟨_, refused⟩ | ⟨_, _, done⟩ | ⟨_, done⟩
  · rw [refused] at failed
    exact (congrArg Prod.fst failed).symm
  · simp [done] at failed
  · simp [done] at failed

/-- A call that fails leaves the list alone. -/
theorem call_of_error {list : Shortlist} {call : Call} {error : ShortlistError}
    (failed : (list.call call).2 = .error error) : (list.call call).1 = list := by
  cases call with
  | add selection candidates =>
    rcases change : list.addFrom selection candidates with ⟨after, cause | n⟩
    · simp only [Shortlist.call, change, eq_of_addFrom_error change]
    · simp [Shortlist.call, change, Except.map] at failed
  | remove selection =>
    rcases change : list.strike selection with ⟨after, cause | n⟩
    · simp only [Shortlist.call, change, eq_of_strike_error change]
    · simp [Shortlist.call, change, Except.map] at failed
  | clear => cases failed

theorem call_add_fst (list : Shortlist) (selection : String) (candidates : List Game) :
    (list.call (.add selection candidates)).1 =
      ((picked selection candidates).foldl insert (list, 0)).1 := by
  rcases list.addFrom_cases selection candidates with ⟨nothing, _, refused⟩ | done
  · simp only [call, refused, nothing, List.foldl_nil]
  · simp only [call, done, enlist, insertAll]

theorem Keyed.call {list : Shortlist} (keyed : list.Keyed) (call : Call) :
    (list.call call).1.Keyed := by
  cases call with
  | add selection candidates =>
    rw [call_add_fst]
    exact Keyed.foldl_insert keyed _
  | remove selection =>
    rcases list.strike_cases selection with ⟨_, refused⟩ | ⟨names, _, done⟩ | ⟨_, done⟩
    · simpa only [Shortlist.call, refused] using keyed
    · simpa only [Shortlist.call, done] using keyed.foldl_erase names
    · simpa only [Shortlist.call, done] using keyed_empty
  | clear => exact keyed_empty

theorem keyed_run (calls : List Call) : (empty.run calls).Keyed := by
  induction calls using List.reverseRecOn with
  | nil => exact keyed_empty
  | append_singleton calls call ih =>
    rw [run_concat]
    exact ih.call call

/-- A name is there after a call because it was there before, or because the call added it as the
first of its key, and the key was new. -/
theorem mem_names_call {list : Shortlist} {call : Call} {listed : String}
    (member : listed ∈ (list.call call).1.names) :
    listed ∈ list.names ∨ ∃ selection candidates, call = .add selection candidates ∧
      ¬ list.contains listed ∧ (picked selection candidates).find?
        (fun name => Text.lower name == Text.lower listed) = some listed := by
  cases call with
  | add selection candidates =>
    rw [call_add_fst] at member
    rcases mem_names_foldl_insert.mp member with old | new
    · exact Or.inl old
    · exact Or.inr ⟨selection, candidates, rfl, new⟩
  | remove selection =>
    refine Or.inl ?_
    rcases list.strike_cases selection with ⟨_, refused⟩ | ⟨names, _, done⟩ | ⟨_, done⟩
    · simpa only [Shortlist.call, refused] using member
    · simp only [Shortlist.call, done] at member
      exact mem_names_foldl_erase member
    · simp [Shortlist.call, done, empty, names] at member
  | clear => simp [Shortlist.call, empty, names] at member

end GameShelf.Shortlist
