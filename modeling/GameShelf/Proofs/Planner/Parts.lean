import GameShelf.Proofs.Filter.Literal
import GameShelf.Proofs.Ordering.Arrangement
import GameShelf.Proofs.Planner.History

namespace GameShelf
open Std

/-- A row in which elements of three places never stand in the wrong order is its three parts. -/
theorem append_parts {α : Type} {place : α → Ordering} {row : List α}
    (rising : row.Pairwise fun a b =>
      (place b = .lt → place a = .lt) ∧ (place a = .gt → place b = .gt)) :
    (row.filter fun a => place a == .lt) ++ (row.filter fun a => place a == .eq) ++
      (row.filter fun a => place a == .gt) = row := by
  induction row with
  | nil => rfl
  | cons a row ih =>
    obtain ⟨first, later⟩ := List.pairwise_cons.mp rising
    have rest := ih later
    have none (p : Ordering) (absent : ∀ b ∈ row, place b ≠ p) :
        (row.filter fun b => place b == p) = [] := by
      simpa [List.filter_eq_nil_iff] using absent
    cases here : place a with
    | lt => simpa [here] using rest
    | eq =>
      have noneBelow := none .lt fun b member below => by
        have before := (first b member).1 below
        rw [here] at before
        cases before
      rw [noneBelow, List.nil_append] at rest
      simpa [here, noneBelow] using rest
    | gt =>
      have above : ∀ b ∈ row, place b = .gt := fun b member => (first b member).2 here
      have noneBelow := none .lt fun b member => by simp [above b member]
      have noneAt := none .eq fun b member => by simp [above b member]
      rw [noneBelow, noneAt, List.nil_append] at rest
      simpa [here, noneBelow, noneAt] using rest

namespace SortOrder

variable {order : SortOrder} {column : Column} {place : Game → Ordering} {games : List Game}

/-- The order never puts two of the games against their places. -/
def Respects (order : SortOrder) (place : Game → Ordering) (games : List Game) : Prop :=
  ∀ a ∈ games, ∀ b ∈ games, order.compare a b ≠ .gt →
    (place b = .lt → place a = .lt) ∧ (place a = .gt → place b = .gt)

/-- Descending, the places are turned round as well. -/
theorem Respects.descending (respects : Respects ⟨column, true⟩ place games) :
    Respects ⟨column, false⟩ (fun game => (place game).swap) games := by
  intro a inA b inB placed
  rw [compare_descending] at placed
  obtain ⟨below, above⟩ := respects b inB a inA placed
  simp only [Ordering.swap_eq_lt, Ordering.swap_eq_gt]
  exact ⟨above, below⟩

/-- A sort is cut in three wherever its order respects the places. -/
theorem Respects.sort_eq_parts (respects : order.Respects place games) :
    order.sort games =
      order.sort (games.filter fun game => place game == .lt) ++
        order.sort (games.filter fun game => place game == .eq) ++
        order.sort (games.filter fun game => place game == .gt) := by
  have sorted := order.stableSort_sort games
  have rising : (order.sort games).Pairwise fun a b =>
      (place b = .lt → place a = .lt) ∧ (place a = .gt → place b = .gt) := by
    refine sorted.ordered.imp_of_mem fun {a b} inA inB placed => ?_
    exact respects a (sorted.perm.mem_iff.mp inA) b (sorted.perm.mem_iff.mp inB) placed
  rw [← filter_sort, ← filter_sort, ← filter_sort, append_parts rising]

/-- Descending, the three parts come in the opposite order. -/
theorem Respects.sort_descending_eq_parts (respects : Respects ⟨column, true⟩ place games) :
    sort ⟨column, false⟩ games =
      sort ⟨column, false⟩ (games.filter fun game => place game == .gt) ++
        sort ⟨column, false⟩ (games.filter fun game => place game == .eq) ++
        sort ⟨column, false⟩ (games.filter fun game => place game == .lt) := by
  have turned (outcome : Ordering) : (fun game => (place game).swap == outcome.swap) =
      fun game => place game == outcome := by
    funext game
    cases place game <;> cases outcome <;> rfl
  rw [← turned .lt, ← turned .eq, ← turned .gt]
  exact respects.descending.sort_eq_parts

end SortOrder

namespace Planner

variable {column : Column} {literal : String} {games : List Game}

theorem view_of_one_clause (games : List Game) (clause : Clause) (order : SortOrder) :
    (⟨games, [clause]⟩ : Planner).view order =
      order.sort (games.filter clause.predicate.accepts) := by
  have one : admits ⟨games, [clause]⟩ = clause.predicate.accepts := by
    funext game
    simp [admits]
  rw [view, one]

/-- An operator with a single outcome picks the games at one place. -/
theorem view_of_place {operator : Operator} {outcome : Ordering} {place : Game → Ordering}
    (only : operator.accepted = [some outcome]) (places : column.Places literal)
    (known : ∀ game ∈ games, column.against literal game = some (place game))
    (order : SortOrder) :
    (⟨games, [⟨column, operator, literal⟩]⟩ : Planner).view order =
      order.sort (games.filter fun game => place game == outcome) := by
  have ordering : operator.isOrdering := by simp [Operator.isOrdering, only]
  have readable (kind : column.kind = .number) :
      ∃ value, Binary64.ofText? literal = some value := (places kind).imp fun _ read => read.1
  rw [view_of_one_clause]
  congr 1
  refine List.filter_congr fun game member => ?_
  rw [Clause.accepts_eq ordering readable, known game member, Bool.eq_iff_iff]
  simp [Operator.accepts, only]

/-- A view by a column is that of the games below a literal, that of the games equal to it and that
of the games above it, one behind the other, and descending the other way round. -/
theorem view_parts_at_literal (places : column.Places literal)
    (ordinary : ∀ game ∈ games, column.Ordinary game) :
    let part (operator : Operator) : Planner := ⟨games, [⟨column, operator, literal⟩]⟩
    (ofGames games).view ⟨column, true⟩ =
        (part .less).view ⟨column, true⟩ ++ (part .equals).view ⟨column, true⟩ ++
          (part .greater).view ⟨column, true⟩ ∧
      (ofGames games).view ⟨column, false⟩ =
        (part .greater).view ⟨column, false⟩ ++ (part .equals).view ⟨column, false⟩ ++
          (part .less).view ⟨column, false⟩ := by
  intro part
  let place (game : Game) : Ordering := (column.against literal game).getD .eq
  have known : ∀ game ∈ games, column.against literal game = some (place game) := by
    intro game member
    obtain ⟨outcome, compared⟩ := column.exists_against places (ordinary game member)
    simp only [place, compared, Option.getD_some]
  have respects : SortOrder.Respects ⟨column, true⟩ place games := by
    intro a inA b inB placed
    exact Column.side_of_against (known a inA) (known b inB) placed
  have less (order : SortOrder) : (part .less).view order =
      order.sort (games.filter fun game => place game == .lt) :=
    view_of_place rfl places known order
  have equal (order : SortOrder) : (part .equals).view order =
      order.sort (games.filter fun game => place game == .eq) :=
    view_of_place rfl places known order
  have greater (order : SortOrder) : (part .greater).view order =
      order.sort (games.filter fun game => place game == .gt) :=
    view_of_place rfl places known order
  simp only [less, equal, greater, ofGames, view_of_no_clauses]
  exact ⟨respects.sort_eq_parts, respects.sort_descending_eq_parts⟩

/-- A game with this rating. -/
def gameOf (rating : Binary64) : Game :=
  ⟨"Chess", 1, 2, 2, 20, 60, default, 80, rating, 1475⟩

/-- Both zeros are equal to the literal `0`, and the sort puts the negative one first. -/
theorem view_parts_at_literal_of_zeros :
    let games := [.infinity false, .zero true, .ofRatio true 1 2, .zero false].map gameOf
    let part (operator : Operator) : Planner := ⟨games, [⟨.rating, operator, "0"⟩]⟩
    Column.rating.Places "0" ∧ (∀ game ∈ games, Column.rating.Ordinary game) ∧
      (ofGames games).view ⟨.rating, true⟩ =
        [.ofRatio true 1 2, .zero true, .zero false, .infinity false].map gameOf ∧
      (ofGames games).view ⟨.rating, false⟩ =
        (part .greater).view ⟨.rating, false⟩ ++ (part .equals).view ⟨.rating, false⟩ ++
          (part .less).view ⟨.rating, false⟩ := by
  intro games part
  have places : Column.rating.Places "0" := fun _ => ⟨.zero false, by decide +kernel, rfl⟩
  have ordinary : ∀ game ∈ games, Column.rating.Ordinary game := by
    rw [List.forall_mem_map]
    intro rating member score number
    obtain rfl : rating = score := Column.Value.number.inj number
    have numbers : ∀ rating ∈ [.infinity false, .zero true, .ofRatio true 1 2, .zero false],
        Binary64.isNaN rating = false := by decide +kernel
    exact numbers rating member
  obtain ⟨ascending, descending⟩ := view_parts_at_literal places ordinary
  -- Each part stands in its order already.
  have below : (part .less).view ⟨.rating, true⟩ = [gameOf (.ofRatio true 1 2)] := by
    rw [view_of_one_clause, SortOrder.sort_of_ordered (by decide +kernel)]
    decide +kernel
  have level : (part .equals).view ⟨.rating, true⟩ = [.zero true, .zero false].map gameOf := by
    rw [view_of_one_clause, SortOrder.sort_of_ordered (by decide +kernel)]
    decide +kernel
  have above : (part .greater).view ⟨.rating, true⟩ = [gameOf (.infinity false)] := by
    rw [view_of_one_clause, SortOrder.sort_of_ordered (by decide +kernel)]
    decide +kernel
  change _ = (part .less).view _ ++ (part .equals).view _ ++ (part .greater).view _ at ascending
  rw [below, level, above] at ascending
  exact ⟨places, ordinary, ascending, descending⟩

end Planner

end GameShelf
