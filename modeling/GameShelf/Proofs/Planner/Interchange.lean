import GameShelf.Proofs.Planner.History

namespace GameShelf

theorem Clause.segments_comma (left right : String) :
    segments (left ++ "," ++ right) = segments left ++ segments right := by
  have whole : (left ++ "," ++ right).toList = left.toList ++ ',' :: right.toList := by
    simp
  rw [segments, whole, List.splitOn_append_cons_self, List.map_append]
  rfl

namespace Planner

theorem accepted_comma (left right : String) :
    accepted (left ++ "," ++ right) = accepted left ++ accepted right := by
  simp only [accepted, Clause.parseAll, Clause.segments_comma, List.map_append,
    List.filterMap_append]

/-- Two planners over the same games have read the same clauses, each at least once. -/
structure Agrees (first second : Planner) : Prop where
  games : first.games = second.games
  clauses : ∀ clause, clause ∈ first.clauses ↔ clause ∈ second.clauses

namespace Agrees

variable {first second : Planner}

theorem admits_eq (agrees : first.Agrees second) : first.admits = second.admits := by
  funext game
  rw [Bool.eq_iff_iff]
  simp only [admits, List.all_eq_true]
  exact forall_congr' fun clause => by rw [agrees.clauses clause]

/-- The games that pass are the same and in the order of the base, so a stable sort of them is the
same too. -/
theorem view_eq (agrees : first.Agrees second) (order : SortOrder) :
    first.view order = second.view order := by
  rw [view, view, agrees.games, agrees.admits_eq]

theorem call_fst (agrees : first.Agrees second) (call : Call) :
    (first.call call).1.Agrees (second.call call).1 := by
  rw [Planner.call_fst, Planner.call_fst]
  refine ⟨agrees.games, fun clause => ?_⟩
  by_cases isReset : call = .reset
  · simp [isReset]
  · simp [isReset, agrees.clauses clause]

theorem call_snd (agrees : first.Agrees second) (call : Call) :
    (first.call call).2 = (second.call call).2 := by
  have views : (first.call call).2.view = (second.call call).2.view := by
    rw [call_view, call_view]
    exact Option.map_congr fun order _ => (agrees.call_fst call).view_eq order
  have reasons : (first.call call).2.rejected = (second.call call).2.rejected := by
    have independent : ∀ expression, (first.addFilters expression).2 =
        (second.addFilters expression).2 := by
      intro expression
      by_cases blank : isBlankExpression expression <;> simp [addFilters, blank]
    simp only [call_rejected, independent]
  exact congrArg₂ Answer.mk views reasons

/-- From there on the same calls are answered in the same way. -/
theorem run_snd (agrees : first.Agrees second) (calls : List Call) :
    (first.run calls).2 = (second.run calls).2 := by
  induction calls generalizing first second with
  | nil => rfl
  | cons call calls ih =>
    simp only [run, agrees.call_snd call, ih (agrees.call_fst call)]

end Agrees

theorem agrees_of_same_required (base : List Game) {first second : List Call}
    (same : ∀ clause, clause ∈ required first ↔ clause ∈ required second) :
    ((ofGames base).run first).1.Agrees ((ofGames base).run second).1 := by
  rw [run_fst, run_fst]
  exact ⟨rfl, same⟩

/-- A comma is as good as another call. -/
theorem required_comma (calls : List Call) {joined left right : Call} {a b : String}
    (both : joined.expression? = some (a ++ "," ++ b)) (first : left.expression? = some a)
    (second : right.expression? = some b) :
    required (calls ++ [joined]) = required (calls ++ [left, right]) := by
  have keeps : ∀ call : Call, call.expression?.isSome → call ≠ .reset := by
    rintro call given rfl
    cases given
  have split : calls ++ [left, right] = (calls ++ [left]) ++ [right] := by simp
  rw [split, required_concat, required_concat, required_concat,
    if_neg (keeps joined (by simp [both])), if_neg (keeps left (by simp [first])),
    if_neg (keeps right (by simp [second])), call_clauses_eq_accepted both,
    call_clauses_eq_accepted first, call_clauses_eq_accepted second, accepted_comma,
    List.append_assoc]

/-- After a run a view is a stable sort of the games that pass the clauses read since the last
reset. So two runs over the same games that have read the same set of clauses show the same games in
the same places, whatever the order, and answer all later calls alike. Two expressions joined by a
comma leave the same clauses as one after the other. -/
theorem views_of_same_clauses (base : List Game) (first second : List Call) :
    (∀ order, StableSort order.compare (matching base first)
        (((ofGames base).run first).1.view order)) ∧
      ((∀ clause, clause ∈ required first ↔ clause ∈ required second) →
        (∀ order, ((ofGames base).run first).1.view order =
          ((ofGames base).run second).1.view order) ∧
        ∀ later, (((ofGames base).run first).1.run later).2 =
          (((ofGames base).run second).1.run later).2) ∧
      ∀ (a b : String) (joined left right : Call), joined.expression? = some (a ++ "," ++ b) →
        left.expression? = some a → right.expression? = some b →
        ((ofGames base).run (first ++ [joined])).1 =
          ((ofGames base).run (first ++ [left, right])).1 := by
  refine ⟨?_, ?_, ?_⟩
  · intro order
    rw [run_fst]
    exact order.stableSort_sort _
  · intro same
    have agrees := agrees_of_same_required base same
    exact ⟨agrees.view_eq, agrees.run_snd⟩
  · intro a b joined left right both before after
    rw [run_fst, run_fst, required_comma first both before after]

/-- Two clauses from one expression, and the same two turned round, repeated, and mixed with a
reset, another view, a blank expression and a segment that is rejected. -/
theorem views_of_same_clauses_shuffled :
    let once : List Call := [.filter "rank<100,year>2000"]
    let shuffled : List Call := [.filter "name==Go", .reset, .addFilters "year>2000",
      .current ⟨.rating, false⟩, .filterReport "rank<100, rating" .standard, .addFilters " ",
      .filterSorted "year > 2000" .rank]
    required once = [⟨.rank, .less, "100"⟩, ⟨.year, .greater, "2000"⟩] ∧
      required shuffled =
        [⟨.year, .greater, "2000"⟩, ⟨.rank, .less, "100"⟩, ⟨.year, .greater, "2000"⟩] ∧
      (∀ clause, clause ∈ required once ↔ clause ∈ required shuffled) ∧
      (∀ base, ((ofGames base).run once).1.view ⟨.year, false⟩ =
        ((ofGames base).run shuffled).1.view ⟨.year, false⟩) ∧
      ((ofGames []).run [.addFilters "rank<100,year>2000"]).1 =
        ((ofGames []).run [.addFilters "rank<100", .addFilters "year>2000"]).1 := by
  intro once shuffled
  have two : required once = [⟨.rank, .less, "100"⟩, ⟨.year, .greater, "2000"⟩] := by
    decide +kernel
  have three : required shuffled =
      [⟨.year, .greater, "2000"⟩, ⟨.rank, .less, "100"⟩, ⟨.year, .greater, "2000"⟩] := by
    decide +kernel
  have same : ∀ clause, clause ∈ required once ↔ clause ∈ required shuffled := by
    intro clause
    rw [two, three]
    simp only [List.mem_cons, List.not_mem_nil, or_false]
    tauto
  exact ⟨two, three, same, fun base => ((views_of_same_clauses base _ _).2.1 same).1 ⟨.year, false⟩,
    (views_of_same_clauses [] [] []).2.2 "rank<100" "year>2000" _ _ _ rfl rfl rfl⟩

end Planner

end GameShelf
