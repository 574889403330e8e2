import GameShelf.Planner
import GameShelf.Proofs.Ordering.Comparison
import Mathlib.Data.List.FinRange

namespace GameShelf
open Std

variable {α : Type} {cmp : α → α → Ordering} {row : List α} {places : List (Fin row.length)}

/-- All positions of a row, such that earlier ones hold elements that are less than or equal to
later ones, and positions of elements that tie ascend. -/
structure Arranges (cmp : α → α → Ordering) (row : List α) (places : List (Fin row.length)) :
    Prop where
  perm : places.Perm (List.finRange row.length)
  ordered : places.Pairwise fun i j => (cmp row[i] row[j]).isLE
  ties : places.Pairwise fun i j => cmp row[i] row[j] = .eq → i < j

/-- The comparison of two positions: by what stands there, and then by which is further left. -/
def placeOrder (cmp : α → α → Ordering) (row : List α) (i j : Fin row.length) : Ordering :=
  (cmp row[i] row[j]).then (compare i j)

instance [TransCmp cmp] : TransCmp (placeOrder cmp row) := by
  have byElement : TransCmp fun i j : Fin row.length => cmp row[i] row[j] :=
    { eq_swap := OrientedCmp.eq_swap, isLE_trans := TransCmp.isLE_trans }
  exact inferInstanceAs
    (TransCmp (compareLex (fun i j : Fin row.length => cmp row[i] row[j]) compare))

theorem placeOrder_eq_lt_iff {i j : Fin row.length} :
    placeOrder cmp row i j = .lt ↔
      (cmp row[i] row[j]).isLE ∧ (cmp row[i] row[j] = .eq → i < j) := by
  have leftmost : compare i j = .lt ↔ i < j := compare_lt_iff_lt
  rw [placeOrder]
  cases cmp row[i] row[j] <;> simp [leftmost]

/-- Different positions never tie. -/
theorem placeOrder_eq_lt_of_ne {i j : Fin row.length} (notAfter : placeOrder cmp row i j ≠ .gt)
    (apart : i ≠ j) : placeOrder cmp row i j = .lt := by
  cases outcome : placeOrder cmp row i j with
  | lt => rfl
  | eq =>
    rw [placeOrder, Ordering.then_eq_eq] at outcome
    exact absurd (LawfulEqCmp.eq_of_compare outcome.2) apart
  | gt => exact absurd outcome notAfter

theorem arranges_iff :
    Arranges cmp row places ↔ places.Perm (List.finRange row.length) ∧
      places.Pairwise fun i j => placeOrder cmp row i j = .lt := by
  simp only [placeOrder_eq_lt_iff, List.pairwise_and_iff]
  constructor
  · rintro ⟨perm, ordered, ties⟩
    exact ⟨perm, ordered, ties⟩
  · rintro ⟨perm, ordered, ties⟩
    exact ⟨perm, ordered, ties⟩

theorem exists_arranges [TransCmp cmp] (row : List α) : ∃ places, Arranges cmp row places := by
  have sorted : StableSort (placeOrder cmp row) (List.finRange row.length) _ :=
    stableSort_mergeSort _
  have distinct := sorted.perm.nodup_iff.mpr (List.nodup_finRange row.length)
  refine ⟨_, arranges_iff.mpr ⟨sorted.perm, (sorted.ordered.and distinct).imp ?_⟩⟩
  rintro i j ⟨notAfter, apart⟩
  exact placeOrder_eq_lt_of_ne notAfter apart

namespace Arranges

theorem unique [TransCmp cmp] {others : List (Fin row.length)} (first : Arranges cmp row places)
    (second : Arranges cmp row others) : places = others := by
  obtain ⟨perm, placed⟩ := arranges_iff.mp first
  obtain ⟨otherPerm, otherPlaced⟩ := arranges_iff.mp second
  refine (perm.trans otherPerm.symm).eq_of_pairwise ?_ placed otherPlaced
  intro i j _ _ before after
  have turned := OrientedCmp.gt_of_lt before
  rw [after] at turned
  cases turned

/-- Of the positions whose elements tie with one element, an arrangement has all, and from left to
right. -/
theorem filter_ties [TransCmp cmp] (arranges : Arranges cmp row places) (a : α) :
    places.filter (fun i => cmp a row[i] == .eq) =
      (List.finRange row.length).filter fun i => cmp a row[i] == .eq := by
  have ascending : (places.filter fun i => cmp a row[i] == .eq).Pairwise (· < ·) := by
    refine (arranges.ties.filter _).imp_of_mem fun {i j} inTies alsoInTies rising => rising ?_
    have left : cmp a row[i] = .eq := by simpa using (List.mem_filter.mp inTies).2
    have right : cmp a row[j] = .eq := by simpa using (List.mem_filter.mp alsoInTies).2
    rw [TransCmp.congr_left (OrientedCmp.eq_symm left), right]
  refine (arranges.perm.filter _).eq_of_pairwise ?_ ascending
    ((List.pairwise_lt_finRange row.length).filter _)
  intro i j _ _ before after
  exact absurd after before.asymm

theorem stableSort [TransCmp cmp] (arranges : Arranges cmp row places) :
    StableSort cmp row (places.map row.get) := by
  have whole := List.map_get_finRange row
  refine ⟨?_, ?_, fun a => ?_⟩
  · have moved := arranges.perm.map row.get
    rwa [whole] at moved
  · rw [List.pairwise_map]
    exact arranges.ordered.imp fun placed => Ordering.isLE_iff_ne_gt.mp placed
  · conv_rhs => rw [← whole]
    rw [List.filter_map, List.filter_map]
    exact congrArg (List.map row.get) (arranges.filter_ties a)

end Arranges

namespace SortOrder

theorem sort_of_ordered {order : SortOrder} {games : List Game}
    (ordered : games.Pairwise fun a b => order.compare a b ≠ .gt) : order.sort games = games :=
  (order.stableSort_sort games).unique ⟨.rfl, ordered, fun _ => rfl⟩

theorem sort_sort (order : SortOrder) (games : List Game) :
    order.sort (order.sort games) = order.sort games :=
  sort_of_ordered (order.stableSort_sort games).ordered

/-- Under every order any two games can be compared, and sorting puts the positions of a row in the
one arrangement that there is. So sorting again changes nothing, also in a view. -/
theorem sort_arranges (order : SortOrder) :
    (∀ a b, order.compare b a = (order.compare a b).swap) ∧
      (∀ a b, (order.compare a b).isLE ∨ (order.compare b a).isLE) ∧
      (∀ a b c, (order.compare a b).isLE → (order.compare b c).isLE →
        (order.compare a c).isLE) ∧
      (∀ games, ∃ places, Arranges order.compare games places ∧
        order.sort games = places.map games.get ∧
        ∀ others, Arranges order.compare games others → others = places) ∧
      (∀ games, order.sort (order.sort games) = order.sort games) ∧
      ∀ planner : Planner, order.sort (planner.view order) = planner.view order := by
  refine ⟨?_, ?_, ?_, ?_, order.sort_sort, ?_⟩
  · exact fun a b => OrientedCmp.eq_swap
  · intro a b
    have total : ((order.compare a b).isLE || (order.compare b a).isLE) = true := isLE_total a b
    simpa using total
  · exact fun a b c => TransCmp.isLE_trans
  · intro games
    obtain ⟨places, arranges⟩ : ∃ places, Arranges order.compare games places :=
      exists_arranges games
    refine ⟨places, arranges, ?_, fun others other => other.unique arranges⟩
    exact (order.stableSort_sort games).unique arranges.stableSort
  · exact fun planner => order.sort_sort _

end SortOrder

end GameShelf
