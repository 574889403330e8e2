import GameShelf.Proofs.Ordering.StableSort
import GameShelf.SortOrder

namespace GameShelf
open Std

instance : TransCmp Text.order :=
  inferInstanceAs (TransCmp (compareOn String.toList))

instance : LawfulEqCmp Text.order where
  eq_of_compare same := String.toList_injective (LawfulEqOrd.eq_of_compare same)

instance : TransCmp Binary64.totalOrder :=
  inferInstanceAs (TransCmp (compareOn Binary64.rank))

instance : LawfulEqCmp Binary64.totalOrder where
  eq_of_compare same := Binary64.rank_injective (LawfulEqOrd.eq_of_compare same)

/-- The total order is that of the bit patterns, as they are for two numbers without a sign, and the
other way round for two with one. -/
theorem Binary64.totalOrder_eq_compare_bits (x y : Binary64) :
    x.totalOrder y =
      if x.negative then if y.negative then compare y.bits x.bits else .lt
      else if y.negative then .gt else compare x.bits y.bits := by
  have ofNat (m n : Nat) : compare m n = if m < n then .lt else if m = n then .eq else .gt := rfl
  have ofInt (m n : Int) : compare m n = if m < n then .lt else if m = n then .eq else .gt := rfl
  rw [totalOrder, ofInt, ofNat, ofNat, rank, rank, bits, bits]
  grind

/-- A column has one kind, so the values of two games are never of different kinds. -/
theorem Column.value_of_kind (column : Column) :
    (column.kind = .text ∧ ∀ game, column.value game = .text game.name) ∨
      column.kind = .number ∧
        ∃ score : Game → Binary64, ∀ game, column.value game = .number (score game) := by
  cases column
  case name => exact Or.inl ⟨rfl, fun _ => rfl⟩
  all_goals exact Or.inr ⟨rfl, _, fun _ => rfl⟩

namespace SortOrder

instance transCmp_ascending (column : Column) : TransCmp (compare ⟨column, true⟩) := by
  have unfolded : compare ⟨column, true⟩ =
      fun a b => compareValues (column.value a) (column.value b) := rfl
  rw [unfolded]
  rcases column.value_of_kind with ⟨_, text⟩ | ⟨_, score, number⟩
  · simp only [text, compareValues]
    exact inferInstanceAs (TransCmp (compareOn fun game : Game => (Text.lower game.name).toList))
  · simp only [number, compareValues]
    exact inferInstanceAs (TransCmp (compareOn fun game : Game => (score game).rank))

/-- Descending compares the games the other way round. -/
theorem compare_descending (column : Column) (a b : Game) :
    compare ⟨column, false⟩ a b = compare ⟨column, true⟩ b a := by
  have turned : compare ⟨column, true⟩ b a = (compare ⟨column, true⟩ a b).swap :=
    OrientedCmp.eq_swap
  exact turned.symm

instance transCmp_compare (order : SortOrder) : TransCmp order.compare := by
  obtain ⟨column, ascending⟩ := order
  cases ascending with
  | true => exact transCmp_ascending column
  | false =>
    rw [show compare ⟨column, false⟩ = fun a b => compare ⟨column, true⟩ b a from
      funext fun a => funext fun b => compare_descending column a b]
    exact TransCmp.opposite

theorem stableSort_sort (order : SortOrder) (games : List Game) :
    StableSort order.compare games (order.sort games) :=
  stableSort_mergeSort games

theorem filter_sort (order : SortOrder) (p : Game → Bool) (games : List Game) :
    (order.sort games).filter p = order.sort (games.filter p) :=
  ((order.stableSort_sort games).filter p).unique (order.stableSort_sort (games.filter p))

end SortOrder

end GameShelf
