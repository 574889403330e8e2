import GameShelf.Text.Splitting
import Mathlib.Data.List.Infix

namespace GameShelf.Text

theorem after?_eq_some_iff {mark cs rest : List Char} :
    after? mark cs = some rest ↔ cs = mark ++ rest := by
  constructor
  · exact eq_append_of_after?
  · rintro rfl
    exact after?_append mark rest

theorem eq_append_of_splitFirst {mark cs left right : List Char}
    (split : splitFirst mark cs = some (left, right)) : cs = left ++ mark ++ right := by
  induction cs generalizing left right with
  | nil =>
    obtain ⟨rest, found, same⟩ := Option.map_eq_some_iff.mp split
    obtain ⟨rfl, rfl⟩ := Prod.mk.inj same
    exact after?_eq_some_iff.mp found
  | cons c cs ih =>
    rw [splitFirst] at split
    cases found : after? mark (c :: cs) with
    | some rest =>
      simp only [found, Option.some.injEq, Prod.mk.injEq] at split
      obtain ⟨rfl, rfl⟩ := split
      exact after?_eq_some_iff.mp found
    | none =>
      simp only [found] at split
      obtain ⟨⟨before, rest⟩, later, same⟩ := Option.map_eq_some_iff.mp split
      obtain ⟨rfl, rfl⟩ := Prod.mk.inj same
      simp [ih later]

theorem occursIn_iff_infix {mark cs : List Char} : occursIn mark cs = true ↔ mark <:+: cs := by
  rw [occursIn, Option.isSome_iff_exists]
  constructor
  · rintro ⟨⟨left, right⟩, split⟩
    exact ⟨left, right, (eq_append_of_splitFirst split).symm⟩
  · rintro ⟨left, right, rfl⟩
    induction left with
    | nil =>
      cases mark with
      | nil =>
        refine ⟨([], right), ?_⟩
        cases right <;> rfl
      | cons m mark =>
        refine ⟨([], right), ?_⟩
        have found := after?_append (m :: mark) right
        rw [List.cons_append] at found
        simp [splitFirst, found]
    | cons c left ih =>
      obtain ⟨parts, split⟩ := ih
      simp only [List.append_assoc] at split
      simp only [List.cons_append, List.append_assoc, splitFirst]
      cases found : after? mark (c :: (left ++ (mark ++ right))) with
      | some rest => exact ⟨_, rfl⟩
      | none => simp [split]

/-- A text is split behind `left` if no occurrence can begin inside it. -/
theorem splitFirst_of_not_mem {m : Char} {mark left : List Char} (right : List Char)
    (fresh : m ∉ left) :
    splitFirst (m :: mark) (left ++ m :: mark ++ right) = some (left, right) := by
  induction left with
  | nil =>
    have found := after?_append (m :: mark) right
    rw [List.cons_append] at found
    simp [splitFirst, found]
  | cons c left ih =>
    simp only [List.mem_cons, not_or] at fresh
    have passed : after? (m :: mark) (c :: (left ++ m :: mark ++ right)) = none := by
      simp [after?, fresh.1]
    rw [List.cons_append, List.cons_append, splitFirst, passed, ih fresh.2]
    rfl

/-- A mark whose characters do not stand in `left` occurs behind it or not at all. -/
theorem infix_append_iff_of_not_mem {m : Char} {mark left right : List Char} (fresh : m ∉ left) :
    m :: mark <:+: left ++ right ↔ m :: mark <:+: right := by
  induction left with
  | nil => rfl
  | cons c left ih =>
    simp only [List.mem_cons, not_or] at fresh
    rw [List.cons_append, List.infix_cons_iff, ih fresh.2]
    constructor
    · rintro (first | later)
      · exact absurd (List.cons_prefix_cons.mp first).1 fresh.1
      · exact later
    · exact Or.inr

/-- The parts of a text between its marks hold no mark. -/
theorem not_mem_of_mem_splitOn {mark : Char} {cs part : List Char}
    (member : part ∈ cs.splitOn mark) : mark ∉ part := by
  induction cs generalizing part with
  | nil => simp_all [List.splitOn_nil]
  | cons c cs ih =>
    rw [List.splitOn_cons_eq_if_modifyHead] at member
    split at member
    · rcases List.mem_cons.mp member with rfl | later
      · exact List.not_mem_nil
      · exact ih later
    · rename_i other
      obtain ⟨head, tail, parts⟩ := List.exists_cons_of_ne_nil (List.splitOn_ne_nil mark cs)
      rw [parts, List.modifyHead_cons] at member
      rcases List.mem_cons.mp member with rfl | later
      · have inHead : mark ∉ head := ih (parts ▸ List.mem_cons_self)
        rw [List.mem_cons, not_or]
        exact ⟨fun same => other (beq_iff_eq.mpr same.symm), inHead⟩
      · exact ih (parts ▸ List.mem_cons_of_mem head later)

end GameShelf.Text
