import GameShelf.Proofs.Planner.Narrowing
import GameShelf.Proofs.Planner.Parts

namespace GameShelf

namespace Operator

/-- The operator that accepts one outcome and no other. -/
def ofOutcome : Ordering → Operator
  | .lt => less
  | .eq => equals
  | .gt => greater

theorem accepts_notEquals (outcome : Option Ordering) :
    notEquals.accepts outcome = !equals.accepts outcome := by
  rcases outcome with _ | _ | _ | _ <;> rfl

theorem accepts_greaterOrEqual (outcome : Option Ordering) :
    greaterOrEqual.accepts outcome = (greater.accepts outcome || equals.accepts outcome) := by
  rcases outcome with _ | _ | _ | _ <;> rfl

theorem accepts_lessOrEqual (outcome : Option Ordering) :
    lessOrEqual.accepts outcome = (less.accepts outcome || equals.accepts outcome) := by
  rcases outcome with _ | _ | _ | _ <;> rfl

theorem accepts_none_iff {operator : Operator} :
    operator.accepts none ↔ operator = notEquals := by
  cases operator <;> decide

/-- The operators of the three parts below, at and above a literal. -/
def strict : List Operator :=
  [less, equals, greater]

theorem isOrdering_of_mem_strict {operator : Operator} (member : operator ∈ strict) :
    operator.isOrdering := by
  revert member
  cases operator <;> decide

theorem ofOutcome_mem_strict (outcome : Ordering) : ofOutcome outcome ∈ strict := by
  cases outcome <;> decide

theorem accepts_some_iff_of_mem_strict {operator : Operator} (member : operator ∈ strict)
    (outcome : Ordering) : operator.accepts (some outcome) ↔ operator = ofOutcome outcome := by
  revert member
  cases operator <;> cases outcome <;> decide

end Operator

namespace Column

/-- A literal that is a number, where the column holds numbers. -/
def Readable (column : Column) (literal : String) : Prop :=
  column.kind = .number → ∃ value, Binary64.ofText? literal = some value

/-- A NaN is compared: it is the literal, or it stands in the column. -/
def Unordered (column : Column) (literal : String) (game : Game) : Prop :=
  column.kind = .number ∧
    ((∃ value, Binary64.ofText? literal = some value ∧ value.isNaN) ∨
      ∃ score, column.value game = .number score ∧ score.isNaN)

variable {column : Column} {literal : String} {game : Game}

theorem against_eq_none_iff (readable : column.Readable literal) :
    column.against literal game = none ↔ column.Unordered literal game := by
  unfold against Unordered
  rcases column.value_of_kind with ⟨kind, text⟩ | ⟨kind, score, number⟩
  · simp [kind, text]
  · obtain ⟨value, read⟩ := readable kind
    have compared : (score game).partialOrder value = none ↔ value.isNaN ∨ (score game).isNaN := by
      unfold Binary64.partialOrder
      cases value.isNaN <;> cases (score game).isNaN <;> simp
    simpa [kind, number, read] using compared

end Column

namespace Clause

variable {column : Column} {literal : String}

/-- A literal that is no number lets nothing through, whatever the operator. -/
theorem accepts_of_unreadable (kind : column.kind = .number)
    (unreadable : Binary64.ofText? literal = none) (operator : Operator) (game : Game) :
    (predicate ⟨column, operator, literal⟩).accepts game = false := by
  simp only [predicate, Predicate.ofClause, kind, unreadable, Predicate.accepts]

/-- Numbers contain nothing, so asking for it lets everything through. -/
theorem accepts_contains_of_readable (kind : column.kind = .number)
    (readable : column.Readable literal) (game : Game) :
    (predicate ⟨column, .contains, literal⟩).accepts game = true := by
  obtain ⟨value, read⟩ := readable kind
  simp only [predicate, Predicate.ofClause, kind, read]
  rfl

/-- With one literal, the game is below it, equal to it or above it. -/
theorem existsUnique_strict_of_ordered (readable : column.Readable literal) {game : Game}
    (ordered : ¬ column.Unordered literal game) :
    ∃! operator, operator ∈ Operator.strict ∧
      (predicate ⟨column, operator, literal⟩).accepts game := by
  rw [← Column.against_eq_none_iff readable] at ordered
  obtain ⟨outcome, compared⟩ := Option.ne_none_iff_exists'.mp ordered
  have decides {operator : Operator} (member : operator ∈ Operator.strict) :
      (predicate ⟨column, operator, literal⟩).accepts game ↔ operator = .ofOutcome outcome := by
    rw [accepts_eq (Operator.isOrdering_of_mem_strict member) readable, compared]
    exact Operator.accepts_some_iff_of_mem_strict member outcome
  have member := Operator.ofOutcome_mem_strict outcome
  refine ⟨.ofOutcome outcome, ⟨member, (decides member).mpr rfl⟩, ?_⟩
  intro operator chosen
  exact (decides chosen.1).mp chosen.2

theorem accepts_iff_of_unordered (readable : column.Readable literal) {game : Game}
    (unordered : column.Unordered literal game) {operator : Operator}
    (ordering : operator.isOrdering) :
    (predicate ⟨column, operator, literal⟩).accepts game ↔ operator = .notEquals := by
  rw [accepts_eq ordering readable, (Column.against_eq_none_iff readable).mpr unordered]
  exact Operator.accepts_none_iff

end Clause

namespace Planner

theorem view_append_singleton (planner : Planner) (clause : Clause) (order : SortOrder) :
    ({ planner with clauses := planner.clauses ++ [clause] } : Planner).view order =
      (planner.view order).filter clause.predicate.accepts := by
  rw [view_append]
  simp

/-- The operators on one literal that can be read: each of `!=`, `>=` and `<=` is what its name
says of the others, a game is below the literal, at it or above it, except that a NaN is only
different from everything; and adding `==` to a planner and `!=` to its copy divides every view
between them. A literal that cannot be read lets nothing through. -/
theorem operators_on_one_literal (column : Column) (literal : String) :
    let clause (operator : Operator) : Clause := ⟨column, operator, literal⟩
    let accepts (operator : Operator) (game : Game) : Bool :=
      (clause operator).predicate.accepts game
    (column.Readable literal →
      (∀ game,
        (accepts .notEquals game ↔ ¬ accepts .equals game) ∧
          (accepts .greaterOrEqual game ↔ accepts .greater game ∨ accepts .equals game) ∧
          (accepts .lessOrEqual game ↔ accepts .less game ∨ accepts .equals game) ∧
          (¬ column.Unordered literal game →
            ∃! operator, operator ∈ [Operator.less, .equals, .greater] ∧ accepts operator game) ∧
          (column.Unordered literal game → ∀ operator : Operator, operator.isOrdering →
            (accepts operator game ↔ operator = .notEquals)) ∧
          (column.kind = .number → accepts .contains game)) ∧
        ∀ (planner : Planner) (order : SortOrder),
          let narrowed (operator : Operator) : Planner :=
            { planner with clauses := planner.clauses ++ [clause operator] }
          (∀ expression operator, accepted expression = [clause operator] →
            (planner.addFilters expression).1 = narrowed operator) ∧
          (narrowed .equals).view order = (planner.view order).filter (accepts .equals) ∧
          (narrowed .notEquals).view order = (planner.view order).filter (!accepts .equals ·) ∧
          ((narrowed .equals).view order ++ (narrowed .notEquals).view order).Perm
            (planner.view order)) ∧
      (column.kind = .number → Binary64.ofText? literal = none →
        ∀ operator game, accepts operator game = false) := by
  intro clause accepts
  refine ⟨fun readable => ?_, fun kind unreadable operator game =>
    Clause.accepts_of_unreadable kind unreadable operator game⟩
  have decides {operator : Operator} (ordering : operator.isOrdering) (game : Game) :
      accepts operator game = operator.accepts (column.against literal game) :=
    Clause.accepts_eq ordering readable game
  have opposite (game : Game) : accepts .notEquals game = !accepts .equals game := by
    rw [decides rfl, decides rfl, Operator.accepts_notEquals]
  refine ⟨fun game => ⟨?_, ?_, ?_, ?_, ?_, ?_⟩, fun planner order => ?_⟩
  · simp [opposite]
  · rw [decides rfl, decides rfl, decides rfl, Operator.accepts_greaterOrEqual, Bool.or_eq_true]
  · rw [decides rfl, decides rfl, decides rfl, Operator.accepts_lessOrEqual, Bool.or_eq_true]
  · exact Clause.existsUnique_strict_of_ordered readable
  · exact fun unordered operator ordering =>
      Clause.accepts_iff_of_unordered readable unordered ordering
  · exact fun kind => Clause.accepts_contains_of_readable kind readable game
  · intro narrowed
    have kept : (narrowed .equals).view order = (planner.view order).filter (accepts .equals) :=
      planner.view_append_singleton _ order
    have others : (narrowed .notEquals).view order =
        (planner.view order).filter (!accepts .equals ·) := by
      rw [← funext opposite]
      exact planner.view_append_singleton _ order
    refine ⟨fun expression operator read => ?_, kept, others, ?_⟩
    · rw [addFilters_fst, read]
    · rw [kept, others]
      exact List.filter_append_perm _ _

/-- The zeros are equal, a NaN is no number to compare with, and a word is none at all. -/
theorem operators_on_one_literal_of_zero_and_nan :
    (Column.rating.Readable "-0" ∧ ¬ Column.rating.Unordered "-0" (gameOf (.zero false)) ∧
        ∃! operator, operator ∈ [Operator.less, .equals, .greater] ∧
          (Clause.predicate ⟨.rating, operator, "-0"⟩).accepts (gameOf (.zero false))) ∧
      (Column.rating.Readable "NaN" ∧ Column.rating.Unordered "NaN" (gameOf (.zero false)) ∧
        ∀ operator : Operator, operator.isOrdering →
          ((Clause.predicate ⟨.rating, operator, "NaN"⟩).accepts (gameOf (.zero false)) ↔
            operator = .notEquals)) ∧
      Binary64.ofText? "high" = none ∧ ∀ operator game,
        (Clause.predicate ⟨.rating, operator, "high"⟩).accepts game = false := by
  have zero : Binary64.ofText? "-0" = some (.zero true) := by decide +kernel
  have nan : Binary64.ofText? "NaN" = some (.nan false) := by decide +kernel
  have word : Binary64.ofText? "high" = none := by decide +kernel
  have zeroReadable : Column.rating.Readable "-0" := fun _ => ⟨_, zero⟩
  have nanReadable : Column.rating.Readable "NaN" := fun _ => ⟨_, nan⟩
  have ordered : ¬ Column.rating.Unordered "-0" (gameOf (.zero false)) := by
    rw [← Column.against_eq_none_iff zeroReadable, Column.against, zero]
    decide
  have unordered : Column.rating.Unordered "NaN" (gameOf (.zero false)) :=
    ⟨rfl, Or.inl ⟨_, nan, rfl⟩⟩
  obtain ⟨-, -, -, single, -⟩ :=
    ((operators_on_one_literal .rating "-0").1 zeroReadable).1 (gameOf (.zero false))
  obtain ⟨-, -, -, -, different, -⟩ :=
    ((operators_on_one_literal .rating "NaN").1 nanReadable).1 (gameOf (.zero false))
  have nothing := (operators_on_one_literal .rating "high").2 rfl word
  exact ⟨⟨zeroReadable, ordered, single ordered⟩, ⟨nanReadable, unordered, different unordered⟩,
    word, nothing⟩

end Planner

end GameShelf
