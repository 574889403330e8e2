import GameShelf.Proofs.Text.Occurrence

namespace GameShelf.Text

/-- Where `mark` occurs in a text that begins at position `start`. The search goes on behind each
occurrence. -/
def positions (mark : List Char) (start : Nat) : List Char → List Nat
  | [] => []
  | c :: cs =>
    if mark <+: c :: cs then
      start :: positions mark (start + mark.length) (cs.drop (mark.length - 1))
    else positions mark (start + 1) cs
termination_by text => text.length

/-- The parts of a split text stand before and after the mark. -/
theorem parts_of_splitFirst {mark cs left right : List Char}
    (split : splitFirst mark cs = some (left, right)) :
    cs.take left.length = left ∧ cs.drop (left.length + mark.length) = right := by
  have whole := eq_append_of_splitFirst split
  refine ⟨?_, ?_⟩
  · rw [whole, List.append_assoc, List.take_left]
  · rw [whole, ← List.length_append, List.drop_left]

theorem positions_of_splitFirst_eq_none {mark cs : List Char}
    (missed : splitFirst mark cs = none) (start : Nat) : positions mark start cs = [] := by
  have absent : ¬ mark <:+: cs := by
    rw [← occursIn_iff_infix, occursIn, missed]
    exact Bool.false_ne_true
  clear missed
  induction cs generalizing start with
  | nil => rw [positions]
  | cons c cs ih =>
    have notHere : ¬ mark <+: c :: cs := fun here => absent here.isInfix
    have notLater : ¬ mark <:+: cs := fun later => absent (List.infix_cons later)
    rw [positions, if_neg notHere]
    exact ih (start + 1) notLater

section Marks

variable {mark : List Char} (nonempty : mark ≠ [])

include nonempty

/-- The first occurrence is behind the left part, and the others are those of the right part. -/
theorem positions_of_splitFirst {cs left right : List Char}
    (split : splitFirst mark cs = some (left, right)) (start : Nat) :
    positions mark start cs = (start + left.length) ::
      positions mark (start + left.length + mark.length) right := by
  induction cs generalizing left right start with
  | nil =>
    have empty := eq_append_of_splitFirst split
    rw [eq_comm, List.append_eq_nil_iff, List.append_eq_nil_iff] at empty
    exact absurd empty.1.2 nonempty
  | cons c cs ih =>
    rw [splitFirst] at split
    cases found : after? mark (c :: cs) with
    | some rest =>
      simp only [found, Option.some.injEq, Prod.mk.injEq] at split
      obtain ⟨rfl, rfl⟩ := split
      have whole := after?_eq_some_iff.mp found
      have here : mark <+: c :: cs := ⟨_, whole.symm⟩
      obtain ⟨m, tail, rfl⟩ := List.exists_cons_of_ne_nil nonempty
      obtain ⟨rfl, rfl⟩ := List.cons.inj whole
      have behind : (tail ++ rest).drop tail.length = rest := List.drop_left
      rw [positions, if_pos here, List.length_cons, Nat.add_sub_cancel, List.append_eq, behind]
      rfl
    | none =>
      simp only [found] at split
      obtain ⟨⟨before, rest⟩, later, same⟩ := Option.map_eq_some_iff.mp split
      obtain ⟨rfl, rfl⟩ := Prod.mk.inj same
      have notHere : ¬ mark <+: c :: cs := by
        rintro ⟨rest, whole⟩
        rw [after?_eq_some_iff.mpr whole.symm] at found
        cases found
      have next : start + 1 + before.length = start + (c :: before).length := by
        rw [List.length_cons]
        omega
      rw [positions, if_neg notHere, ih later (start + 1), next]

theorem positions_eq_nil_iff {cs : List Char} {start : Nat} :
    positions mark start cs = [] ↔ ¬ mark <:+: cs := by
  rw [← occursIn_iff_infix, occursIn]
  cases split : splitFirst mark cs with
  | none => simp [positions_of_splitFirst_eq_none split]
  | some parts => simp [positions_of_splitFirst nonempty split]

/-- A mark that occurs once splits the text at that position. -/
theorem positions_eq_singleton_iff {cs : List Char} {p : Nat} :
    positions mark 0 cs = [p] ↔ ∃ left right, splitFirst mark cs = some (left, right) ∧
      ¬ mark <:+: right ∧ left.length = p := by
  cases split : splitFirst mark cs with
  | none => simp [positions_of_splitFirst_eq_none split]
  | some parts =>
    rw [positions_of_splitFirst nonempty split, Nat.zero_add, List.cons_eq_cons,
      positions_eq_nil_iff nonempty]
    constructor
    · rintro ⟨rfl, once⟩
      exact ⟨parts.1, parts.2, rfl, once, rfl⟩
    · rintro ⟨_, _, same, once, rfl⟩
      cases Option.some.inj same
      exact ⟨rfl, once⟩

end Marks

end GameShelf.Text
