import GameShelf.Text.Blank
import Mathlib.Data.List.DropRight

namespace GameShelf.Text

theorem trimEnd_eq_rdropWhile (cs : List Char) : trimEnd cs = cs.rdropWhile isBlank :=
  rfl

theorem trimmed_infix (cs : List Char) : trimmed cs <:+: cs :=
  (List.rdropWhile_prefix isBlank (trimStart cs)).isInfix.trans
    (List.dropWhile_suffix isBlank).isInfix

theorem trimmed_eq_nil_iff {cs : List Char} : trimmed cs = [] ↔ ∀ c ∈ cs, isBlank c := by
  rw [trimmed, trimEnd_eq_rdropWhile, List.rdropWhile_eq_nil_iff]
  constructor
  · intro blank c member
    rw [← List.takeWhile_append_dropWhile (p := isBlank) (l := cs)] at member
    rcases List.mem_append.mp member with before | after
    · exact List.mem_takeWhile_imp before
    · exact blank c after
  · intro blank c member
    exact blank c ((List.dropWhile_suffix isBlank).subset member)

theorem trim_eq_empty_iff {text : String} : trim text = "" ↔ ∀ c ∈ text.toList, isBlank c := by
  rw [← String.toList_eq_nil_iff, toList_trim, trimmed_eq_nil_iff]

/-- A text that neither begins nor ends with a blank is left as it is. -/
theorem trimmed_eq_self {cs : List Char} (first : ∀ c ∈ cs.head?, isBlank c = false)
    (last : ∀ c ∈ cs.getLast?, isBlank c = false) : trimmed cs = cs := by
  have start : trimStart cs = cs := by
    cases cs with
    | nil => rfl
    | cons c cs => simp [trimStart, first c rfl]
  rw [trimmed, start, trimEnd_eq_rdropWhile]
  refine List.rdropWhile_eq_self_iff.mpr fun nonempty => ?_
  simp [last _ (List.getLast?_eq_getLast_of_ne_nil nonempty)]

theorem head_trimmed {cs : List Char} {c : Char} (first : (trimmed cs).head? = some c) :
    isBlank c = false := by
  obtain ⟨rest, whole⟩ := List.rdropWhile_prefix isBlank (trimStart cs)
  have start : (trimStart cs).head? = some c := by
    rw [← whole, List.head?_append]
    exact Option.or_eq_some_iff.mpr (Or.inl first)
  have stopped := List.head?_dropWhile_not isBlank cs
  rw [show cs.dropWhile isBlank = trimStart cs from rfl, start] at stopped
  simpa using stopped

theorem getLast_trimmed {cs : List Char} {c : Char} (last : (trimmed cs).getLast? = some c) :
    isBlank c = false := by
  have nonempty : trimmed cs ≠ [] := by
    intro empty
    simp [empty] at last
  have kept := List.rdropWhile_last_not isBlank (trimStart cs) nonempty
  rw [List.getLast?_eq_getLast_of_ne_nil nonempty] at last
  rw [← Option.some.inj last]
  exact (Bool.not_eq_true _).mp kept

theorem trimmed_trimmed (cs : List Char) : trimmed (trimmed cs) = trimmed cs :=
  trimmed_eq_self (fun _ first => head_trimmed first) (fun _ last => getLast_trimmed last)

/-- Around what is left of a text there were only blanks. -/
theorem exists_eq_append_trimmed (cs : List Char) : ∃ front back : List Char,
    (∀ c ∈ front, isBlank c) ∧ (∀ c ∈ back, isBlank c) ∧ cs = front ++ trimmed cs ++ back := by
  refine ⟨cs.takeWhile isBlank, (trimStart cs).rtakeWhile isBlank,
    fun c => List.mem_takeWhile_imp, fun c => List.mem_rtakeWhile_imp, ?_⟩
  have ends : trimmed cs ++ (trimStart cs).rtakeWhile isBlank = trimStart cs :=
    List.rdropWhile_append_rtakeWhile
  rw [List.append_assoc, ends]
  exact List.takeWhile_append_dropWhile.symm

theorem trimEnd_append_of_isBlank (cs : List Char) {back : List Char}
    (blank : ∀ c ∈ back, isBlank c) : trimEnd (cs ++ back) = trimEnd cs := by
  have reversed : ∀ c ∈ back.reverse, isBlank c := by simpa using blank
  rw [trimEnd, List.reverse_append, List.dropWhile_append_of_pos reversed, trimEnd]

theorem trimmed_append_of_isBlank {front back : List Char} (before : ∀ c ∈ front, isBlank c)
    (after : ∀ c ∈ back, isBlank c) (cs : List Char) :
    trimmed (front ++ cs ++ back) = trimmed cs := by
  have started : trimStart (front ++ cs ++ back) = trimStart (cs ++ back) := by
    rw [trimStart, List.append_assoc, List.dropWhile_append_of_pos before, trimStart]
  rw [trimmed, started, trimStart, List.dropWhile_append]
  split
  · rename_i nothing
    have empty : trimStart cs = [] := List.isEmpty_iff.mp nothing
    have rest : back.dropWhile isBlank = [] := List.dropWhile_eq_nil_iff.mpr after
    rw [rest, trimmed, empty]
  · exact trimEnd_append_of_isBlank _ after

theorem splitWord_append {word : List Char} {b : Char} (solid : word.all (!isBlank ·) = true)
    (blank : isBlank b = true) (rest : List Char) :
    splitWord (word ++ b :: rest) = (word, trimmed rest) := by
  have passes : ∀ c ∈ word, (!isBlank c) = true := List.all_eq_true.mp solid
  rw [splitWord, List.takeWhile_append_of_pos passes, List.dropWhile_append_of_pos passes]
  have before : ∀ c ∈ [b], isBlank c := by simpa using blank
  have after : ∀ c ∈ ([] : List Char), isBlank c := by simp
  simpa [blank] using trimmed_append_of_isBlank before after rest

/-- The words of a line are the same with or without the blanks around the line. -/
theorem splitWord_trimmed_append {word : List Char} {b : Char} (nonempty : word ≠ [])
    (solid : word.all (!isBlank ·) = true) (blank : isBlank b = true) (rest : List Char) :
    splitWord (trimmed (word ++ b :: rest)) = (word, trimmed rest) := by
  have inWord : ∀ c ∈ word, isBlank c = false := by simpa using solid
  obtain ⟨front, back, before, after, whole⟩ := exists_eq_append_trimmed rest
  by_cases nothing : trimmed rest = []
  · have blanks : ∀ c ∈ b :: rest, isBlank c := by
      simpa [blank] using trimmed_eq_nil_iff.mp nothing
    have alone : trimmed (word ++ b :: rest) = word := by
      rw [← List.nil_append word, trimmed_append_of_isBlank (by simp) blanks word]
      exact trimmed_eq_self (fun c first => inWord c (List.mem_of_head? first))
        fun c last => inWord c (List.mem_of_getLast? last)
    rw [alone, nothing, splitWord, List.takeWhile_eq_self_iff.mpr (by simpa using inWord),
      List.dropWhile_eq_nil_iff.mpr (by simpa using inWord)]
    rfl
  · have kept : trimmed (word ++ b :: rest) = word ++ b :: (front ++ trimmed rest) := by
      have line : word ++ b :: rest = [] ++ (word ++ b :: (front ++ trimmed rest)) ++ back := by
        rw [List.nil_append, List.append_assoc, List.cons_append, ← whole]
      rw [line, trimmed_append_of_isBlank (by simp) after]
      refine trimmed_eq_self ?_ ?_
      · intro c first
        rw [List.head?_append_of_ne_nil _ nonempty] at first
        exact inWord c (List.mem_of_head? first)
      · intro c last
        rw [← List.cons_append, ← List.append_assoc, List.getLast?_append_of_ne_nil _ nothing]
          at last
        exact getLast_trimmed last
    rw [kept, splitWord_append solid blank, ← List.append_nil (front ++ trimmed rest),
      trimmed_append_of_isBlank before (by simp), trimmed_trimmed]

end GameShelf.Text
