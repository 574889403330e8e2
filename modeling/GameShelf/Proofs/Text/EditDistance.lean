import Mathlib.Order.Bounds.Basic
import GameShelf.Text.EditDistance

namespace GameShelf.Text

/-- The insertion, deletion or substitution of a single character, anywhere in a text. -/
inductive Edit : List Char → List Char → Prop
  | insertion (front back : List Char) (c : Char) : Edit (front ++ back) (front ++ c :: back)
  | deletion (front back : List Char) (c : Char) : Edit (front ++ c :: back) (front ++ back)
  | substitution (front back : List Char) (c d : Char) :
      Edit (front ++ c :: back) (front ++ d :: back)

/-- So many edits, one after the other, lead from one text to another. -/
inductive Edits : Nat → List Char → List Char → Prop
  | none (text : List Char) : Edits 0 text text
  | next {n : Nat} {source between target : List Char} (edit : Edit source between)
      (rest : Edits n between target) : Edits (n + 1) source target

theorem Edit.cons {source target : List Char} (edit : Edit source target) (c : Char) :
    Edit (c :: source) (c :: target) := by
  cases edit with
  | insertion front back d => exact .insertion (c :: front) back d
  | deletion front back d => exact .deletion (c :: front) back d
  | substitution front back d e => exact .substitution (c :: front) back d e

theorem Edits.cons {n : Nat} {source target : List Char} (edits : Edits n source target)
    (c : Char) : Edits n (c :: source) (c :: target) := by
  induction edits with
  | none text => exact .none (c :: text)
  | next edit _ ih => exact .next (edit.cons c) ih

theorem edits_zero_iff {source target : List Char} : Edits 0 source target ↔ source = target := by
  constructor
  · rintro ⟨⟩
    rfl
  · rintro rfl
    exact .none source

/-- The row of a source: its distances to the target and to every suffix of it. -/
def distanceRow (source target : List Char) : List Nat :=
  source.foldr (extendRow · target) (emptyRow target)

theorem editDistance_eq_head (source target : List Char) :
    editDistance source target = (distanceRow source target).headD 0 :=
  rfl

theorem distanceRow_source (c : Char) (source target : List Char) :
    distanceRow (c :: source) target = extendRow c target (distanceRow source target) :=
  rfl

/-- Behind its first entry a row is the one for the rest of the target. -/
theorem distanceRow_target (source : List Char) (t : Char) (target : List Char) :
    distanceRow source (t :: target) =
      editDistance source (t :: target) :: distanceRow source target := by
  induction source with
  | nil => rfl
  | cons c source ih =>
    rw [editDistance_eq_head, distanceRow_source, distanceRow_source, ih, extendRow,
      List.tail_cons, List.headD_cons, List.headD_cons]

theorem editDistance_nil (target : List Char) : editDistance [] target = target.length := by
  cases target <;> rfl

theorem editDistance_cons_nil (c : Char) (source : List Char) :
    editDistance (c :: source) [] = editDistance source [] + 1 :=
  rfl

theorem editDistance_cons_cons (c : Char) (source : List Char) (t : Char) (target : List Char) :
    editDistance (c :: source) (t :: target) =
      min (min (editDistance source (t :: target) + 1) (editDistance (c :: source) target + 1))
        (editDistance source target + if c = t then 0 else 1) := by
  rw [editDistance_eq_head, distanceRow_source, distanceRow_target, extendRow, List.headD_cons,
    List.headD_cons, List.tail_cons, ← distanceRow_source, ← editDistance_eq_head,
    ← editDistance_eq_head]

/-- There are as many edits as the distance says: of the three ways to begin, the equations take
one that is shortest. -/
theorem edits_editDistance (source target : List Char) :
    Edits (editDistance source target) source target := by
  induction source generalizing target with
  | nil =>
    induction target with
    | nil => exact .none []
    | cons t target ih =>
      rw [editDistance_nil] at ih ⊢
      exact .next (.insertion [] [] t) (ih.cons t)
  | cons c source deleted =>
    -- an insertion shortens the target alone, so it is by induction on the target
    induction target with
    | nil => exact .next (.deletion [] source c) (deleted [])
    | cons t target inserted =>
      have ways : editDistance (c :: source) (t :: target) = editDistance source (t :: target) + 1 ∨
          editDistance (c :: source) (t :: target) = editDistance (c :: source) target + 1 ∨
          editDistance (c :: source) (t :: target) =
            editDistance source target + if c = t then 0 else 1 := by
        rw [editDistance_cons_cons]
        omega
      rcases ways with deletion | insertion | neither
      · rw [deletion]
        exact .next (.deletion [] source c) (deleted (t :: target))
      · rw [insertion]
        exact .next (.insertion [] (c :: source) t) (inserted.cons t)
      · rw [neither]
        split
        · rename_i same
          exact same ▸ (deleted target).cons c
        · exact .next (.substitution [] source c t) ((deleted target).cons t)

theorem editDistance_self (text : List Char) : editDistance text text = 0 := by
  induction text with
  | nil => rfl
  | cons c text ih =>
    rw [editDistance_cons_cons, if_pos rfl, ih]
    omega

section Nearer

/-- No target is nearer to one text than to the other by more than one. -/
def NoNearer (source other : List Char) : Prop :=
  ∀ target, editDistance source target ≤ editDistance other target + 1

variable {source other : List Char}

theorem NoNearer.cons (noNearer : NoNearer source other) (c : Char) :
    NoNearer (c :: source) (c :: other) := by
  intro target
  induction target with
  | nil =>
    have ends := noNearer []
    rw [editDistance_cons_nil, editDistance_cons_nil]
    omega
  | cons t target ih =>
    have here := noNearer (t :: target)
    have behind := noNearer target
    rw [editDistance_cons_cons, editDistance_cons_cons]
    omega

theorem noNearer_deletion (c : Char) (source : List Char) : NoNearer (c :: source) source := by
  intro target
  cases target with
  | nil => exact le_rfl
  | cons t target =>
    rw [editDistance_cons_cons]
    omega

/-- A text that is longer at the end of the target is at most one edit farther. -/
theorem editDistance_target_le (source : List Char) (t : Char) (target : List Char) :
    editDistance source (t :: target) ≤ editDistance source target + 1 := by
  cases source with
  | nil =>
    rw [editDistance_nil, editDistance_nil]
    exact le_rfl
  | cons c source =>
    rw [editDistance_cons_cons]
    omega

theorem noNearer_insertion (c : Char) (source : List Char) : NoNearer source (c :: source) := by
  intro target
  induction target with
  | nil =>
    rw [editDistance_cons_nil]
    omega
  | cons t target ih =>
    have longer := editDistance_target_le source t target
    rw [editDistance_cons_cons]
    omega

theorem noNearer_substitution (c d : Char) (source : List Char) :
    NoNearer (c :: source) (d :: source) := by
  intro target
  induction target with
  | nil =>
    rw [editDistance_cons_nil, editDistance_cons_nil]
    omega
  | cons t target ih =>
    rw [editDistance_cons_cons, editDistance_cons_cons]
    split <;> split <;> omega

/-- The edit is made behind a common front, which changes nothing. -/
theorem Edit.noNearer (edit : Edit source other) : NoNearer source other := by
  have behind {source other : List Char} (noNearer : NoNearer source other)
      (front : List Char) : NoNearer (front ++ source) (front ++ other) := by
    induction front with
    | nil => exact noNearer
    | cons c front ih => exact ih.cons c
  cases edit with
  | insertion front back c => exact behind (noNearer_insertion c back) front
  | deletion front back c => exact behind (noNearer_deletion c back) front
  | substitution front back c d => exact behind (noNearer_substitution c d back) front

end Nearer

theorem Edits.editDistance_le {n : Nat} {source target : List Char}
    (edits : Edits n source target) : editDistance source target ≤ n := by
  induction edits with
  | none text => exact (editDistance_self text).le
  | next edit _ ih => exact (edit.noNearer _).trans (Nat.succ_le_succ ih)

/-- The edit distance of two texts is the least number of edits that lead from one to the other. -/
theorem isLeast_editDistance (source target : List Char) :
    IsLeast {n | Edits n source target} (editDistance source target) :=
  ⟨edits_editDistance source target, fun _ edits => edits.editDistance_le⟩

end GameShelf.Text
