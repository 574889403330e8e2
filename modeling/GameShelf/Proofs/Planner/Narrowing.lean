import GameShelf.Proofs.Planner.History
import Mathlib.Data.List.Perm.Subperm

namespace GameShelf.Planner

/-- More clauses take games out of every view, and leave the others in their places. -/
theorem view_append (planner : Planner) (added : List Clause) (order : SortOrder) :
    ({ planner with clauses := planner.clauses ++ added } : Planner).view order =
      (planner.view order).filter fun game => added.all (·.predicate.accepts game) := by
  have both : admits { planner with clauses := planner.clauses ++ added } = fun game =>
      added.all (·.predicate.accepts game) && planner.admits game := by
    funext game
    rw [admits, List.all_append, Bool.and_comm, admits]
  rw [view, view, SortOrder.filter_sort, List.filter_filter, both]

theorem filterWith_eq (planner : Planner) (expression : String) (order : SortOrder) :
    planner.filterWith expression order =
      ({ planner with clauses := planner.clauses ++ accepted expression },
        (planner.view order).filter fun game =>
          (accepted expression).all (·.predicate.accepts game)) := by
  rw [← view_append, ← addFilters_fst]
  rfl

theorem run_fst_of_no_reset (planner : Planner) {calls : List Call} (onward : .reset ∉ calls) :
    (planner.run calls).1 =
      { planner with clauses := planner.clauses ++ calls.flatMap Call.clauses } := by
  induction calls generalizing planner with
  | nil => simp [run]
  | cons call calls ih =>
    rw [List.mem_cons, not_or] at onward
    obtain ⟨first, later⟩ := onward
    rw [run, ih _ later, call_fst, if_neg (Ne.symm first), List.flatMap_cons, List.append_assoc]

/-- In another order a view has the same games, so the view after a call never has a game more
often than a view before it. -/
theorem view_call_subperm (planner : Planner) {call : Call} (onward : call ≠ .reset)
    (before after : SortOrder) :
    ((planner.call call).1.view after).Subperm (planner.view before) := by
  have reordered : (planner.view after).Perm (planner.view before) :=
    (after.stableSort_sort planner.admitted).perm.trans
      (before.stableSort_sort planner.admitted).perm.symm
  rw [call_fst, if_neg onward, view_append]
  exact List.filter_sublist.subperm.trans reordered.subperm

/-- Induction on the calls: each of them leaves views that are no larger in any order. -/
theorem subperm_of_mem_run {planner : Planner} {calls : List Call} (onward : .reset ∉ calls)
    {answer : Answer} (given : answer ∈ (planner.run calls).2) {shown : List Game}
    (view : answer.view = some shown) (order : SortOrder) :
    shown.Subperm (planner.view order) := by
  induction calls generalizing planner with
  | nil => cases given
  | cons call calls ih =>
    rw [List.mem_cons, not_or] at onward
    obtain ⟨first, later⟩ := onward
    have smaller := planner.view_call_subperm (Ne.symm first) order
    have split : answer = (planner.call call).2 ∨ answer ∈ ((planner.call call).1.run calls).2 :=
      List.mem_cons.mp given
    rcases split with same | behind
    · rw [same, call_view, Option.map_eq_some_iff] at view
      obtain ⟨own, _, rfl⟩ := view
      exact smaller own
    · exact (ih later behind).trans (smaller order)

/-- Filtering works the view out anew, as a stable sort of the games of the base that pass every
clause, and yet shows the view that was there before without the games that fail a new clause, all
others in their places. An expression without a clause changes nothing. So until a reset the views
only lose games, in whatever orders they are shown. -/
theorem filterWith_narrows_view (planner : Planner) (expression : String) (order : SortOrder) :
    let segments := (expression.toList.splitOn ',').map String.ofList
    let added := segments.filterMap fun segment => (Clause.parse segment).toOption
    (planner.filterWith expression order).1 =
        { planner with clauses := planner.clauses ++ added } ∧
      StableSort order.compare
        (planner.games.filter fun game => (planner.clauses ++ added).all (·.predicate.accepts game))
        (planner.filterWith expression order).2 ∧
      (planner.filterWith expression order).2 =
        (planner.view order).filter (fun game => added.all (·.predicate.accepts game)) ∧
      ((∀ segment ∈ segments, ∃ error, Clause.parse segment = .error error) →
        planner.filterWith expression order = (planner, planner.view order)) ∧
      ∀ calls, .reset ∉ calls →
        (∀ order, (planner.run calls).1.view order = (planner.view order).filter fun game =>
          (calls.flatMap Call.clauses).all (·.predicate.accepts game)) ∧
        ∀ answer ∈ (planner.run calls).2, ∀ shown, answer.view = some shown →
          ∀ order, shown.Subperm (planner.view order) := by
  intro segments added
  have read : (Call.filterWith expression order).clauses = accepted expression :=
    call_clauses_eq_accepted rfl
  change added = accepted expression at read
  refine ⟨?_, ?_, ?_, ?_, ?_⟩
  · rw [filterWith_eq, read]
  · rw [filterWith_eq, ← view_append, ← read]
    exact order.stableSort_sort _
  · rw [filterWith_eq, read]
  · intro allRejected
    have nothing : added = [] := by
      refine List.filterMap_eq_nil_iff.mpr fun segment member => ?_
      obtain ⟨error, rejected⟩ := allRejected segment member
      rw [rejected]
      rfl
    rw [filterWith_eq, ← read, nothing, List.append_nil]
    simp
  · intro calls onward
    refine ⟨fun order => ?_, fun answer given shown view => subperm_of_mem_run onward given view⟩
    rw [planner.run_fst_of_no_reset onward, view_append]

end GameShelf.Planner
