import GameShelf.Filter.Predicate
import GameShelf.Proofs.Ordering.Comparison

namespace GameShelf
open Std

/-- What does not come after another element is on the same side of a third one, or before it. -/
theorem side_of_not_gt {α : Type} {cmp : α → α → Ordering} [TransCmp cmp] {a b c : α}
    (placed : cmp a b ≠ .gt) :
    (cmp b c = .lt → cmp a c = .lt) ∧ (cmp a c = .gt → cmp b c = .gt) := by
  have before : (cmp a b).isLE := Ordering.isLE_iff_ne_gt.mpr placed
  have behind : (cmp b a).isGE := OrientedCmp.isGE_of_isLE before
  exact ⟨TransCmp.lt_of_isLE_of_lt before, TransCmp.gt_of_isGE_of_gt behind⟩

namespace Binary64

/-- The zeros have one value, and apart from that a greater value has a greater rank. -/
theorem signedMagnitude_mono {x y : Binary64} (placed : x.totalOrder y ≠ .gt) :
    compare x.signedMagnitude y.signedMagnitude ≠ .gt := by
  rw [totalOrder, ne_eq, compare_eq_gt] at placed
  rw [ne_eq, compare_eq_gt]
  cases left : x.negative <;> cases right : y.negative <;>
    simp only [rank, signedMagnitude, left, right, Bool.false_eq_true, if_true, if_false]
      at placed ⊢ <;> omega

theorem partialOrder_eq_some_iff {x y : Binary64} {outcome : Ordering} :
    x.partialOrder y = some outcome ↔
      x.isNaN = false ∧ y.isNaN = false ∧
        compare x.signedMagnitude y.signedMagnitude = outcome := by
  rw [partialOrder]
  cases x.isNaN <;> cases y.isNaN <;> simp

end Binary64

namespace Column

/-- A literal that has a place among the values of a column: any text among names, and a number
other than a NaN among numbers. -/
def Places (column : Column) (literal : String) : Prop :=
  column.kind = .number → ∃ value, Binary64.ofText? literal = some value ∧ value.isNaN = false

/-- No NaN stands in the column for this game. -/
def Ordinary (column : Column) (game : Game) : Prop :=
  ∀ score, column.value game = .number score → score.isNaN = false

/-- How the value of a game compares with a literal, unless one of them has no place. -/
def against (column : Column) (literal : String) (game : Game) : Option Ordering :=
  match column.value game with
  | .text actual => some (Text.order (Text.lower actual) (Text.lower literal))
  | .number score => (Binary64.ofText? literal).bind score.partialOrder

variable {column : Column} {literal : String} {a b : Game} {x y : Ordering}

theorem against_of_number {score value : Binary64} (number : column.value a = .number score)
    (read : Binary64.ofText? literal = some value) :
    column.against literal a = score.partialOrder value := by
  rw [against, number, read]
  rfl

theorem exists_against (places : column.Places literal) (ordinary : column.Ordinary a) :
    ∃ outcome, column.against literal a = some outcome := by
  rcases column.value_of_kind with ⟨_, text⟩ | ⟨kind, score, number⟩
  · exact ⟨_, by rw [against, text]⟩
  · obtain ⟨value, read, placed⟩ := places kind
    refine ⟨compare (score a).signedMagnitude value.signedMagnitude, ?_⟩
    rw [against, number, read]
    exact Binary64.partialOrder_eq_some_iff.mpr ⟨ordinary _ (number a), placed, rfl⟩

theorem side_of_against (first : column.against literal a = some x)
    (second : column.against literal b = some y)
    (placed : SortOrder.compare ⟨column, true⟩ a b ≠ .gt) :
    (y = .lt → x = .lt) ∧ (x = .gt → y = .gt) := by
  rcases column.value_of_kind with ⟨_, text⟩ | ⟨_, score, number⟩
  · simp only [against, text, Option.some.injEq] at first second
    simp only [SortOrder.compare, text, SortOrder.compareValues, if_true] at placed
    rw [← first, ← second]
    exact side_of_not_gt placed
  · simp only [against, number, Option.bind_eq_some_iff] at first second
    simp only [SortOrder.compare, number, SortOrder.compareValues, if_true] at placed
    obtain ⟨value, read, left⟩ := first
    obtain ⟨again, readAgain, right⟩ := second
    obtain rfl : value = again := Option.some.inj (read.symm.trans readAgain)
    obtain ⟨_, _, rfl⟩ := Binary64.partialOrder_eq_some_iff.mp left
    obtain ⟨_, _, rfl⟩ := Binary64.partialOrder_eq_some_iff.mp right
    exact side_of_not_gt (Binary64.signedMagnitude_mono placed)

end Column

namespace Predicate

theorem matchesText_eq {operator : Operator} (ordering : operator.isOrdering)
    (needle actual : String) :
    matchesText operator needle actual = operator.accepts (some (Text.order actual needle)) := by
  cases operator with
  | contains => cases ordering
  | _ => rfl

/-- A predicate looks at one column, so games that have the same there pass alike. -/
theorem accepts_congr (predicate : Predicate) {a b : Game}
    (same : predicate.column.value a = predicate.column.value b) :
    predicate.accepts a = predicate.accepts b := by
  cases predicate with
  | text | number =>
    rw [column] at same
    rw [accepts, accepts, same]
  | _ => rfl

/-- What is left of a list of games, as far as the outcome tells it without a look at them. -/
theorem filter_of_outcome (predicate : Predicate) (games : List Game) :
    (predicate.outcome = .rejectAll → games.filter predicate.accepts = []) ∧
      (predicate.outcome = .acceptAll → games.filter predicate.accepts = games) := by
  cases predicate with
  | text | number => exact ⟨nofun, nofun⟩
  | rejectAll => exact ⟨fun _ => List.filter_eq_nil_iff.mpr fun _ _ => Bool.false_ne_true, nofun⟩
  | unsupported => exact ⟨nofun, fun _ => List.filter_eq_self.mpr fun _ _ => rfl⟩

end Predicate

theorem Clause.column_predicate (clause : Clause) : clause.predicate.column = clause.column := by
  rw [predicate, Predicate.ofClause]
  split
  · rfl
  · split
    · rfl
    · split <;> rfl

/-- With an ordering operator a clause accepts by how the game compares with its literal. -/
theorem Clause.accepts_eq {column : Column} {operator : Operator} {literal : String}
    (ordering : operator.isOrdering)
    (readable : column.kind = .number → ∃ value, Binary64.ofText? literal = some value)
    (game : Game) :
    (Clause.predicate ⟨column, operator, literal⟩).accepts game =
      operator.accepts (column.against literal game) := by
  rcases column.value_of_kind with ⟨kind, text⟩ | ⟨kind, score, number⟩
  · simp only [predicate, Predicate.ofClause, kind, Predicate.accepts, text, Column.against]
    exact Predicate.matchesText_eq ordering _ _
  · obtain ⟨value, read⟩ := readable kind
    simp only [predicate, Predicate.ofClause, kind, read, ordering, if_true, Predicate.accepts,
      number, Column.against, Option.bind_some]

end GameShelf
