import GameShelf.Proofs.Filter.Expression
import GameShelf.Proofs.Ordering.Comparison

namespace GameShelf.Planner

/-- A call on a planner. -/
inductive Call
  | filter (expression : String)
  | filterSorted (expression : String) (column : Column)
  | filterWith (expression : String) (order : SortOrder)
  | filterReport (expression : String) (order : SortOrder)
  | addFilters (expression : String)
  | current (order : SortOrder)
  | reset
deriving DecidableEq

/-- What a call returns: a view, if it shows one, and the reasons for dropped clauses, if it tells
them. -/
structure Answer where
  view : Option (List Game)
  rejected : Option (List ClauseError)

/-- The planner after a call, and the answer. -/
def call (planner : Planner) : Call → Planner × Answer
  | .filter expression =>
    let (planner, view) := planner.filter expression
    (planner, ⟨some view, none⟩)
  | .filterSorted expression column =>
    let (planner, view) := planner.filterSorted expression column
    (planner, ⟨some view, none⟩)
  | .filterWith expression order =>
    let (planner, view) := planner.filterWith expression order
    (planner, ⟨some view, none⟩)
  | .filterReport expression order =>
    let (planner, report) := planner.filterReport expression order
    (planner, ⟨some report.games, some report.rejected⟩)
  | .addFilters expression =>
    let (planner, rejected) := planner.addFilters expression
    (planner, ⟨none, some rejected⟩)
  | .current order => (planner, ⟨some (planner.view order), none⟩)
  | .reset => (planner.reset, ⟨none, none⟩)

/-- The planner after some calls, and the answer to each. -/
def run (planner : Planner) : List Call → Planner × List Answer
  | [] => (planner, [])
  | first :: calls =>
    let (next, answer) := planner.call first
    let (last, answers) := next.run calls
    (last, answer :: answers)

namespace Call

def expression? : Call → Option String
  | filter expression => some expression
  | filterSorted expression _ => some expression
  | filterWith expression _ => some expression
  | filterReport expression _ => some expression
  | addFilters expression => some expression
  | current _ => none
  | reset => none

/-- The order in which a call shows its view: by name ascending, by a column ascending, or as the
caller says. -/
def order? : Call → Option SortOrder
  | filter _ => some ⟨.name, true⟩
  | filterSorted _ column => some ⟨column, true⟩
  | filterWith _ order => some order
  | filterReport _ order => some order
  | addFilters _ => none
  | current order => some order
  | reset => none

/-- Whether a call tells why clauses were dropped. -/
def reports : Call → Bool
  | filterReport .. => true
  | addFilters _ => true
  | _ => false

/-- The clauses that can be read between the commas of a call's expression. -/
def clauses (call : Call) : List Clause :=
  match call.expression? with
  | none => []
  | some expression =>
    ((expression.toList.splitOn ',').map String.ofList).filterMap fun segment =>
      (Clause.parse segment).toOption

end Call

/-- The clauses read since the last reset, oldest first. -/
def required (calls : List Call) : List Clause :=
  (calls.rtakeWhile (· ≠ .reset)).flatMap Call.clauses

/-- The games that pass every clause read since the last reset, in the order of the base. -/
def matching (base : List Game) (calls : List Call) : List Game :=
  base.filter fun game => (required calls).all (·.predicate.accepts game)

theorem count_matching (base : List Game) (calls : List Call) (game : Game) :
    (matching base calls).count game =
      if (required calls).all (·.predicate.accepts game) then base.count game else 0 := by
  split
  case isTrue passes => exact List.count_filter passes
  case isFalse fails =>
    refine List.count_eq_zero_of_not_mem fun member => fails ?_
    exact (List.mem_filter.mp member).2

theorem required_concat (calls : List Call) (call : Call) :
    required (calls ++ [call]) = if call = .reset then [] else required calls ++ call.clauses := by
  by_cases isReset : call = .reset
  · simp [required, isReset]
  · simp [required, isReset]

theorem call_clauses_eq_accepted {call : Call} {expression : String}
    (given : call.expression? = some expression) : call.clauses = accepted expression := by
  simp only [Call.clauses, given, accepted, Clause.parseAll, Clause.segments, List.filterMap_map]
  congr 1
  funext segment
  cases read : Clause.parse (String.ofList segment) <;> simp [Except.toOption, read]

theorem addFilters_fst (planner : Planner) (expression : String) :
    (planner.addFilters expression).1 =
      { planner with clauses := planner.clauses ++ accepted expression } := by
  by_cases blank : isBlankExpression expression
  · simp [addFilters, blank, accepted_of_blank (isBlankExpression_iff.mp blank)]
  · simp [addFilters, blank]

/-- One call: the base stays, a reset drops every clause, and any other call adds those of its
expression. -/
theorem call_fst (planner : Planner) (call : Call) :
    (planner.call call).1 =
      ⟨planner.games, if call = .reset then [] else planner.clauses ++ call.clauses⟩ := by
  cases call with
  | current order => simp [Planner.call, Call.clauses, Call.expression?]
  | reset => simp [Planner.call, Planner.reset]
  | _ =>
    rw [call_clauses_eq_accepted rfl]
    simp [Planner.call, Planner.filter, filterSorted, filterWith, filterReport, addFilters_fst]

/-- The games that a planner lets through, in the order of its base. -/
def admitted (planner : Planner) : List Game :=
  planner.games.filter planner.admits

theorem view_of_no_clauses (games : List Game) (order : SortOrder) :
    (⟨games, []⟩ : Planner).view order = order.sort games := by
  have everything : games.filter (⟨games, []⟩ : Planner).admits = games :=
    List.filter_eq_self.mpr fun _ _ => rfl
  rw [view, everything]

theorem length_view_le (planner : Planner) (order : SortOrder) :
    (planner.view order).length ≤ planner.games.length := by
  rw [view, SortOrder.sort, List.length_mergeSort]
  exact List.length_filter_le _ _

/-- A view that has as many rows as there are games has left none out. -/
theorem view_of_length_eq {planner : Planner} {order : SortOrder}
    (length : (planner.view order).length = planner.games.length) :
    planner.view order = order.sort planner.games := by
  rw [view, SortOrder.sort, List.length_mergeSort, List.length_filter_eq_length_iff] at length
  rw [view, List.filter_eq_self.mpr length]

/-- What a call shows is the view of the planner that it leaves behind. -/
theorem call_view (planner : Planner) (call : Call) :
    (planner.call call).2.view = call.order?.map (planner.call call).1.view := by
  cases call <;> rfl

theorem call_rejected (planner : Planner) (call : Call) :
    (planner.call call).2.rejected =
      if call.reports then call.expression?.map fun expression => (planner.addFilters expression).2
      else none := by
  cases call <;> rfl

theorem run_append (planner : Planner) (before after : List Call) :
    planner.run (before ++ after) =
      (((planner.run before).1.run after).1,
        (planner.run before).2 ++ ((planner.run before).1.run after).2) := by
  induction before generalizing planner with
  | nil => rfl
  | cons first before ih => simp [run, ih]

theorem length_run (planner : Planner) (calls : List Call) :
    (planner.run calls).2.length = calls.length := by
  induction calls generalizing planner with
  | nil => rfl
  | cons first calls ih => simp [run, ih]

/-- A run leaves the base as it was, and the clauses it has read since its last reset. -/
theorem run_fst (base : List Game) (calls : List Call) :
    ((ofGames base).run calls).1 = ⟨base, required calls⟩ := by
  induction calls using List.reverseRecOn with
  | nil => rfl
  | append_singleton calls call ih =>
    rw [run_append, required_concat, ih]
    exact call_fst ⟨base, required calls⟩ call

/-- Each answer of a run is given by the planner that the calls before it have left. -/
theorem run_answer (base : List Game) (before after : List Call) (call : Call) :
    ((ofGames base).run (before ++ call :: after)).2[before.length]? =
      some ((⟨base, required before⟩ : Planner).call call).2 := by
  rw [run_append, run_fst]
  simp only [List.getElem?_append_right (length_run _ before).le, length_run, Nat.sub_self]
  rfl

theorem call_view_iff (planner : Planner) (call : Call) (view : List Game) :
    (planner.call call).2.view = some view ↔
      ∃ order, call.order? = some order ∧
        StableSort order.compare (planner.call call).1.admitted view := by
  rw [call_view, Option.map_eq_some_iff]
  refine exists_congr fun order => and_congr_right fun _ => ?_
  have sorted := order.stableSort_sort (planner.call call).1.admitted
  constructor
  · rintro rfl
    exact sorted
  · intro other
    exact sorted.unique other

/-- In every run, each view holds the games of the base that pass all clauses read since the last
reset, each as often as the base does, in a stable sort of the base. What stands between two commas
of an expression that is not blank is accepted or rejected, never both and never neither. The
planner itself keeps the base and those clauses; earlier views leave no trace. -/
theorem answers_of_run (base : List Game) (before after : List Call) (call : Call) :
    ((ofGames base).run before).1 = ⟨base, required before⟩ ∧
      ∃ answer, ((ofGames base).run (before ++ call :: after)).2[before.length]? = some answer ∧
        (∀ view, answer.view = some view ↔ ∃ order, call.order? = some order ∧
          StableSort order.compare (matching base (before ++ [call])) view) ∧
        (∀ view, answer.view = some view → ∀ game, view.count game =
          if (required (before ++ [call])).all (·.predicate.accepts game) then base.count game
          else 0) ∧
        ∀ expression, call.expression? = some expression → ∃ clauses errors,
          required (before ++ [call]) = required before ++ clauses ∧
          answer.rejected = (if call.reports then some errors else none) ∧
          ((∀ c ∈ expression.toList, Text.isBlank c) → clauses = [] ∧ errors = []) ∧
          ((∃ c ∈ expression.toList, ¬ Text.isBlank c) →
            Clause.Accounts ((expression.toList.splitOn ',').map String.ofList) clauses
              errors) := by
  have left : ((⟨base, required before⟩ : Planner).call call).1 =
      ⟨base, required (before ++ [call])⟩ := by
    rw [call_fst, required_concat]
  have views : ∀ view, ((⟨base, required before⟩ : Planner).call call).2.view = some view ↔
      ∃ order, call.order? = some order ∧
        StableSort order.compare (matching base (before ++ [call])) view := by
    intro view
    rw [call_view_iff, left]
    rfl
  refine ⟨run_fst base before, _, run_answer base before after call, views, ?_, ?_⟩
  · intro view shown game
    obtain ⟨order, _, sorted⟩ := (views view).mp shown
    rw [sorted.perm.count_eq, count_matching]
  · intro expression given
    refine ⟨accepted expression, ((⟨base, required before⟩ : Planner).addFilters expression).2,
      ?_, ?_, ?_, ?_⟩
    · have kept : call ≠ .reset := by
        rintro rfl
        cases given
      rw [required_concat, if_neg kept, call_clauses_eq_accepted given]
    · rw [call_rejected, given]
      rfl
    · intro blank
      rw [addFilters, if_pos (isBlankExpression_iff.mpr blank)]
      exact ⟨accepted_of_blank blank, rfl⟩
    · rintro ⟨c, member, filled⟩
      rw [addFilters, if_neg fun blank => filled (isBlankExpression_iff.mp blank c member)]
      exact accounts_of_expression expression

end GameShelf.Planner
