import Mathlib.Data.List.Infix
import GameShelf.Text.Lowercase

namespace GameShelf.Text

/-- Whether a sigma is the last letter of a word; of `before` the nearest character comes first. -/
def endsWord (before after : List Char) : Bool :=
  meetsCased before && !meetsCased after

theorem lowerBetween_sigma (before after : List Char) :
    lowerBetween before 'Σ' after = [if endsWord before after then 'ς' else 'σ'] := by
  unfold lowerBetween endsWord
  rw [if_pos rfl]
  split <;> rfl

/-- The lower-case form of `text` with `before` (nearest first) on its left and `after` on its
right. -/
def lowerWithin (before : List Char) : List Char → List Char → List Char
  | [], _ => []
  | c :: text, after =>
    lowerBetween before c (text ++ after) ++ lowerWithin (c :: before) text after

theorem lowerFrom_append (before text after : List Char) :
    lowerFrom before (text ++ after) =
      lowerWithin before text after ++ lowerFrom (text.reverse ++ before) after := by
  induction text generalizing before with
  | nil => rfl
  | cons c text ih =>
    rw [List.cons_append, lowerFrom, lowerWithin, ih, List.append_assoc, List.reverse_cons,
      List.append_assoc, List.singleton_append]

theorem lowerWithin_append (before first second after : List Char) :
    lowerWithin before (first ++ second) after =
      lowerWithin before first (second ++ after) ++
        lowerWithin (first.reverse ++ before) second after := by
  induction first generalizing before with
  | nil => rfl
  | cons c first ih =>
    rw [List.cons_append, lowerWithin, lowerWithin, ih, List.append_assoc, List.append_assoc,
      List.reverse_cons, List.append_assoc, List.singleton_append]

theorem lowered_eq_lowerWithin (text : List Char) : lowered text = lowerWithin [] text [] := by
  have whole := lowerFrom_append [] text []
  rw [List.append_nil] at whole
  rw [lowered, whole, lowerFrom, List.append_nil]

/-- Two surroundings in which the same sigmas end words give the same form. -/
theorem lowerWithin_congr {text before after before' after' : List Char}
    (same : ∀ left right, text = left ++ 'Σ' :: right →
      endsWord (left.reverse ++ before) (right ++ after) =
        endsWord (left.reverse ++ before') (right ++ after')) :
    lowerWithin before text after = lowerWithin before' text after' := by
  induction text generalizing before before' with
  | nil => rfl
  | cons c text ih =>
    have first : lowerBetween before c (text ++ after) =
        lowerBetween before' c (text ++ after') := by
      by_cases sigma : c = 'Σ'
      · subst sigma
        have here := same [] text rfl
        simp only [List.reverse_nil, List.nil_append] at here
        rw [lowerBetween_sigma, lowerBetween_sigma, here]
      · unfold lowerBetween
        rw [if_neg sigma, if_neg sigma]
    have later : lowerWithin (c :: before) text after = lowerWithin (c :: before') text after' := by
      refine ih fun left right shape => ?_
      have there := same (c :: left) right (by rw [shape, List.cons_append])
      simpa only [List.reverse_cons, List.append_assoc, List.singleton_append] using there
    rw [lowerWithin, lowerWithin, first, later]

/-- A letter is looked for behind what a word may have in it besides letters. -/
theorem meetsCased_append (near far : List Char) :
    meetsCased (near ++ far) =
      if near.all isCaseIgnorable then meetsCased far else meetsCased near := by
  induction near with
  | nil => simp
  | cons c near ih =>
    unfold meetsCased at ih ⊢
    by_cases ignorable : isCaseIgnorable c
    · simpa [ignorable] using ih
    · simp [ignorable]

theorem meetsCased_of_all {text : List Char} (ignorable : text.all isCaseIgnorable) :
    meetsCased text = false := by
  have nothing := meetsCased_append text []
  rwa [if_pos ignorable, List.append_nil] at nothing

theorem isCaseIgnorable_sigma : isCaseIgnorable 'Σ' = false := by decide +kernel

theorem meetsCased_sigma (far : List Char) : meetsCased ('Σ' :: far) = true := by
  have letter : isCased 'Σ' = true := by decide +kernel
  unfold meetsCased
  simp [isCaseIgnorable_sigma, letter]

/-- Nothing is looked for behind a sigma. -/
theorem meetsCased_append_sigma (near far other : List Char) :
    meetsCased (near ++ 'Σ' :: far) = meetsCased (near ++ 'Σ' :: other) := by
  rw [meetsCased_append, meetsCased_append, meetsCased_sigma, meetsCased_sigma]

theorem sigma_not_mem_of_all {text : List Char} (ignorable : text.all isCaseIgnorable) :
    'Σ' ∉ text := by
  intro member
  have sigma := List.all_eq_true.mp ignorable _ member
  rw [isCaseIgnorable_sigma] at sigma
  cases sigma

/-- A sigma hides what follows it from what comes before it. -/
theorem lowerWithin_ahead_of_sigma (before text far other : List Char) :
    lowerWithin before text ('Σ' :: far) = lowerWithin before text ('Σ' :: other) := by
  refine lowerWithin_congr fun left right _ => ?_
  unfold endsWord
  rw [meetsCased_append_sigma right far other]

/-- A sigma hides what comes before it from what follows it. -/
theorem lowerWithin_behind_sigma (far other text after : List Char) :
    lowerWithin ('Σ' :: far) text after = lowerWithin ('Σ' :: other) text after := by
  refine lowerWithin_congr fun left right _ => ?_
  unfold endsWord
  rw [meetsCased_append_sigma left.reverse far other]

theorem lowerWithin_of_all {text : List Char} (ignorable : text.all isCaseIgnorable)
    (before before' after after' : List Char) :
    lowerWithin before text after = lowerWithin before' text after' := by
  refine lowerWithin_congr fun left right shape => ?_
  have sigma : 'Σ' ∈ text := shape ▸ List.mem_append_right left List.mem_cons_self
  exact absurd sigma (sigma_not_mem_of_all ignorable)

/-- On either side of a sigma, only its own form depends on the other side. -/
theorem lowered_sigma (left right : List Char) :
    lowered (left ++ 'Σ' :: right) =
      lowerWithin [] left ['Σ'] ++
        (if endsWord left.reverse right then 'ς' else 'σ') :: lowerWithin ['Σ'] right [] := by
  rw [lowered_eq_lowerWithin, lowerWithin_append, lowerWithin, lowerBetween_sigma,
    List.append_nil, List.append_nil, List.cons_append, List.append_nil,
    lowerWithin_ahead_of_sigma [] left right [], lowerWithin_behind_sigma left.reverse []]
  rfl

/-- A text with a sigma whose form it leaves to its surroundings: on one side of the sigma stands
nothing that would decide, and what stands on the other side does not decide either. -/
def LeavesOpen (text : List Char) : Prop :=
  ∃ left right, text = left ++ 'Σ' :: right ∧
    (left.all isCaseIgnorable ∧ meetsCased right = false ∨
      right.all isCaseIgnorable ∧ meetsCased left.reverse = true)

theorem lowerWithin_eq_lowered {text : List Char} (decided : ¬ LeavesOpen text)
    (before after : List Char) : lowerWithin before text after = lowered text := by
  rw [lowered_eq_lowerWithin]
  refine lowerWithin_congr fun left right shape => ?_
  have closed : ¬ (left.all isCaseIgnorable ∧ meetsCased right = false ∨
      right.all isCaseIgnorable ∧ meetsCased left.reverse = true) :=
    fun opened => decided ⟨left, right, shape, opened⟩
  unfold endsWord
  rw [meetsCased_append, meetsCased_append, List.all_reverse, List.append_nil, List.append_nil]
  by_cases bare : left.all isCaseIgnorable
  · have alone : meetsCased left.reverse = false :=
      meetsCased_of_all (by rw [List.all_reverse, bare])
    have letter : meetsCased right = true := by
      by_contra none
      exact closed (Or.inl ⟨bare, by simpa using none⟩)
    have notAll : ¬ right.all isCaseIgnorable := by
      intro ignorable
      rw [meetsCased_of_all ignorable] at letter
      cases letter
    simp [notAll, letter, alone]
  · by_cases blank : right.all isCaseIgnorable
    · have none : meetsCased left.reverse = false := by
        by_contra letter
        exact closed (Or.inr ⟨blank, by simpa using letter⟩)
      simp [bare, none]
    · simp [bare, blank]

end GameShelf.Text
