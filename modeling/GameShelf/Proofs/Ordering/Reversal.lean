import Mathlib.Data.List.Pairwise
import GameShelf.Proofs.Planner.Parts

namespace GameShelf
open Std

variable {α : Type} {cmp : α → α → Ordering} {source other sorted resorted : List α}

/-- A row that is turned, sorted and turned back is sorted by the turned comparison: the elements
that tie are turned twice. -/
theorem StableSort.reverse [OrientedCmp cmp] (stable : StableSort cmp source.reverse sorted) :
    StableSort (fun a b => cmp b a) source sorted.reverse := by
  refine ⟨?_, ?_, fun a => ?_⟩
  · exact (List.reverse_perm sorted).trans (stable.perm.trans (List.reverse_perm source))
  · rw [List.pairwise_reverse]
    exact stable.ordered
  · have tied : (fun b => cmp b a == .eq) = fun b => cmp a b == .eq := by
      funext b
      have turned : cmp b a = (cmp a b).swap := OrientedCmp.eq_swap
      rw [turned]
      cases cmp a b <;> rfl
    rw [tied, List.filter_reverse, stable.ties a, List.filter_reverse, List.reverse_reverse]

/-- Where no two elements tie, it makes no difference how they stood before. -/
theorem StableSort.eq_of_apart [OrientedCmp cmp] (stable : StableSort cmp source sorted)
    (again : StableSort cmp other resorted) (same : source.Perm other)
    (apart : source.Pairwise fun a b => cmp a b ≠ .eq) : sorted = resorted := by
  have symm : Symm fun a b => cmp a b ≠ .eq :=
    ⟨fun a b differ tied => differ (OrientedCmp.eq_symm tied)⟩
  have perm := stable.perm.trans (same.trans again.perm.symm)
  refine perm.eq_of_pairwise (fun a b inSorted inOther before after => ?_) stable.ordered
    again.ordered
  have turned : cmp b a = (cmp a b).swap := OrientedCmp.eq_swap
  have tied : cmp a b = .eq := by
    cases outcome : cmp a b <;> simp_all
  have inSource := stable.perm.mem_iff.mp inSorted
  have alsoInSource := stable.perm.mem_iff.mp (perm.mem_iff.mpr inOther)
  by_contra different
  exact apart.forall inSource alsoInSource different tied

/-- Whether two games stand level in a column, whatever the direction. -/
def Column.ties (column : Column) (a b : Game) : Bool :=
  SortOrder.compare ⟨column, true⟩ a b == .eq

namespace SortOrder

theorem compare_reversed (order : SortOrder) (a b : Game) :
    order.reversed.compare a b = order.compare b a := by
  obtain ⟨column, ascending⟩ := order
  cases ascending with
  | true => exact compare_descending column a b
  | false => exact (compare_descending column b a).symm

theorem compare_eq_iff_ties (order : SortOrder) {a b : Game} :
    order.compare a b = .eq ↔ order.column.ties a b := by
  obtain ⟨column, ascending⟩ := order
  unfold Column.ties
  rw [beq_iff_eq]
  cases ascending with
  | true => rfl
  | false =>
    rw [compare_descending]
    exact OrientedCmp.eq_comm

theorem filter_ties_sort (order : SortOrder) (games : List Game) (game : Game) :
    (order.sort games).filter (order.column.ties game) =
      games.filter (order.column.ties game) := by
  have tied : order.column.ties game = fun other => order.compare game other == .eq := by
    funext other
    rw [Bool.eq_iff_iff, beq_iff_eq, compare_eq_iff_ties]
  rw [tied]
  exact (order.stableSort_sort games).ties game

theorem sort_reversed (order : SortOrder) (games : List Game) :
    order.reversed.sort games = (order.sort games.reverse).reverse := by
  have turned : order.reversed.compare = fun a b => order.compare b a :=
    funext fun a => funext fun b => order.compare_reversed a b
  have both : StableSort order.reversed.compare games (order.sort games.reverse).reverse := by
    rw [turned]
    exact (order.stableSort_sort games.reverse).reverse
  exact (order.reversed.stableSort_sort games).unique both

theorem sort_reversed_of_apart (order : SortOrder) {games : List Game}
    (apart : games.Pairwise fun a b => ¬ order.column.ties a b) :
    order.reversed.sort games = (order.sort games).reverse := by
  have differ : games.Pairwise fun a b => order.compare a b ≠ .eq :=
    apart.imp fun untied tied => untied (order.compare_eq_iff_ties.mp tied)
  rw [sort_reversed, (order.stableSort_sort games).eq_of_apart
    (order.stableSort_sort games.reverse) (List.reverse_perm games).symm differ]

/-- Sorting a column descending is sorting the turned row ascending and turning the result. So the
views in the two directions are each other's turned rows where no two games tie; and games that tie
stand as they do in the base in both. -/
theorem descending_turns_ascending (column : Column) :
    let ascending : SortOrder := ⟨column, true⟩
    let descending : SortOrder := ⟨column, false⟩
    (∀ games : List Game,
      descending.sort games = (ascending.sort games.reverse).reverse ∧
        (games.Pairwise (fun a b => ¬ column.ties a b) →
          descending.sort games = (ascending.sort games).reverse) ∧
        ∀ game, (ascending.sort games).filter (column.ties game) =
            games.filter (column.ties game) ∧
          (descending.sort games).filter (column.ties game) =
            games.filter (column.ties game)) ∧
      ∀ planner : Planner,
        ((planner.view ascending).Pairwise (fun a b => ¬ column.ties a b) →
          planner.view descending = (planner.view ascending).reverse) ∧
        ∀ game, (planner.view ascending).filter (column.ties game) =
            (planner.games.filter planner.admits).filter (column.ties game) ∧
          (planner.view descending).filter (column.ties game) =
            (planner.games.filter planner.admits).filter (column.ties game) := by
  intro ascending descending
  have level (games : List Game) (game : Game) :
      (ascending.sort games).filter (column.ties game) = games.filter (column.ties game) ∧
        (descending.sort games).filter (column.ties game) = games.filter (column.ties game) :=
    ⟨ascending.filter_ties_sort games game, descending.filter_ties_sort games game⟩
  refine ⟨fun games => ⟨?_, fun apart => ?_, level games⟩, fun planner => ⟨fun apart => ?_, ?_⟩⟩
  · exact ascending.sort_reversed games
  · exact ascending.sort_reversed_of_apart apart
  · -- what the view shows apart, the base has apart
    have sorted := ascending.stableSort_sort (planner.games.filter planner.admits)
    have symm : Symm fun a b => ¬ column.ties a b := by
      refine ⟨fun a b untied tied => untied ?_⟩
      rw [← ascending.compare_eq_iff_ties] at tied ⊢
      exact OrientedCmp.eq_symm tied
    have kept := (sorted.perm.pairwise_iff fun untied => symm.symm _ _ untied).mp apart
    exact ascending.sort_reversed_of_apart kept
  · exact fun game => level _ game

/-- Zeros and NaNs of either sign do not tie. -/
theorem descending_turns_ascending_of_zeros_and_nans :
    let games := [.nan true, .zero true, .zero false, .nan false].map Planner.gameOf
    (games.Pairwise fun a b => ¬ Column.rating.ties a b) ∧
      sort ⟨.rating, false⟩ games = games.reverse := by
  intro games
  have apart : games.Pairwise fun a b => ¬ Column.rating.ties a b := by decide +kernel
  have standing : sort ⟨.rating, true⟩ games = games :=
    sort_of_ordered (by decide +kernel)
  have turned := ((descending_turns_ascending .rating).1 games).2.1 apart
  rw [standing] at turned
  exact ⟨apart, turned⟩

end SortOrder

end GameShelf
