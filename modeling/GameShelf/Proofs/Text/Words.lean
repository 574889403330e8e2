import GameShelf.Proofs.Text.Trimming

namespace GameShelf.Text

/-- A filled text without white space. -/
def IsWord (cs : List Char) : Prop :=
  cs ≠ [] ∧ ∀ c ∈ cs, isBlank c = false

/-- A filled text without white space at its ends. -/
def IsPhrase (cs : List Char) : Prop :=
  cs ≠ [] ∧ trimmed cs = cs

theorem IsWord.isPhrase {cs : List Char} (isWord : IsWord cs) : IsPhrase cs :=
  ⟨isWord.1, trimmed_eq_self (fun c first => isWord.2 c (List.mem_of_mem_head? first))
    fun c last => isWord.2 c (List.mem_of_getLast? last)⟩

/-- The parts in a row, with some white space between any two of them. -/
inductive Spaced : List (List Char) → List Char → Prop
  | nil : Spaced [] []
  | single (part : List Char) : Spaced [part] part
  | cons {gap next cs : List Char} {parts : List (List Char)} (part : List Char)
      (some : gap ≠ []) (blank : ∀ c ∈ gap, isBlank c) (spaced : Spaced (next :: parts) cs) :
      Spaced (part :: next :: parts) (part ++ gap ++ cs)

/-- The parts with white space between them, and perhaps around them. -/
def Laid (parts : List (List Char)) (line : List Char) : Prop :=
  ∃ front text back : List Char, (∀ c ∈ front, isBlank c) ∧ (∀ c ∈ back, isBlank c) ∧
    line = front ++ text ++ back ∧ Spaced parts text

theorem laid_of_spaced_trimmed {parts : List (List Char)} {line : List Char}
    (spaced : Spaced parts (trimmed line)) : Laid parts line := by
  obtain ⟨front, back, before, after, whole⟩ := exists_eq_append_trimmed line
  exact ⟨front, _, back, before, after, whole, spaced⟩

theorem spaced_nil_iff {cs : List Char} : Spaced [] cs ↔ cs = [] := by
  constructor
  · rintro ⟨⟩
    rfl
  · rintro rfl
    exact .nil

theorem spaced_single_iff {part cs : List Char} : Spaced [part] cs ↔ cs = part := by
  constructor
  · rintro ⟨⟩
    rfl
  · rintro rfl
    exact .single cs

theorem IsPhrase.head {cs : List Char} (phrase : IsPhrase cs) :
    ∀ c ∈ cs.head?, isBlank c = false := by
  intro c first
  rw [← phrase.2] at first
  exact head_trimmed first

theorem IsPhrase.last {cs : List Char} (phrase : IsPhrase cs) :
    ∀ c ∈ cs.getLast?, isBlank c = false := by
  intro c last
  rw [← phrase.2] at last
  exact getLast_trimmed last

theorem IsPhrase.join {front back : List Char} (first : IsPhrase front) (last : IsPhrase back)
    (middle : List Char) : IsPhrase (front ++ middle ++ back) := by
  refine ⟨List.append_ne_nil_of_right_ne_nil _ last.1, trimmed_eq_self ?_ ?_⟩
  · rw [List.append_assoc, List.head?_append_of_ne_nil _ first.1]
    exact first.head
  · rw [List.getLast?_append_of_ne_nil _ last.1]
    exact last.last

theorem Spaced.isPhrase {part cs : List Char} {parts : List (List Char)}
    (spaced : Spaced (part :: parts) cs) (phrases : ∀ one ∈ part :: parts, IsPhrase one) :
    IsPhrase cs := by
  induction parts generalizing part cs with
  | nil =>
    rw [spaced_single_iff] at spaced
    exact spaced ▸ phrases part List.mem_cons_self
  | cons next parts ih =>
    obtain ⟨first, later⟩ := List.forall_mem_cons.mp phrases
    cases spaced with
    | cons _ some blank rest => exact first.join (ih rest later) _

/-- The row of parts is what is left of a line when it is trimmed. -/
theorem Laid.spaced {parts : List (List Char)} {line : List Char} (laid : Laid parts line)
    (phrases : ∀ part ∈ parts, IsPhrase part) : Spaced parts (trimmed line) := by
  obtain ⟨front, text, back, before, after, rfl, spaced⟩ := laid
  rw [trimmed_append_of_isBlank before after]
  cases parts with
  | nil => exact spaced_nil_iff.mp spaced ▸ .nil
  | cons part parts => rwa [(spaced.isPhrase phrases).2]

/-- A row is split behind its first word. -/
theorem Spaced.splitWord {word cs : List Char} {parts : List (List Char)}
    (spaced : Spaced (word :: parts) cs) (isWord : IsWord word)
    (phrases : ∀ part ∈ parts, IsPhrase part) :
    ∃ rest, Text.splitWord cs = (word, rest) ∧ Spaced parts rest := by
  have solid : ∀ c ∈ word, (!isBlank c) = true := by simpa using isWord.2
  cases spaced with
  | single =>
    refine ⟨[], ?_, .nil⟩
    rw [Text.splitWord, List.takeWhile_eq_self_iff.mpr solid,
      List.dropWhile_eq_nil_iff.mpr solid]
    rfl
  | @cons gap _ rest _ _ some blank row =>
    obtain ⟨b, gap, rfl⟩ := List.exists_cons_of_ne_nil some
    obtain ⟨first, later⟩ := List.forall_mem_cons.mp blank
    refine ⟨rest, ?_, row⟩
    rw [List.append_assoc, List.cons_append, splitWord_append (List.all_eq_true.mpr solid) first,
      ← List.append_nil (gap ++ rest), trimmed_append_of_isBlank later (by simp),
      (row.isPhrase phrases).2]

theorem IsPhrase.eq_nil_of_isBlank {front back : List Char} (phrase : IsPhrase (front ++ back))
    (blank : ∀ c ∈ back, isBlank c) : back = [] := by
  rcases List.eq_nil_or_concat back with rfl | ⟨more, c, rfl⟩
  · rfl
  · have solid := phrase.last c (by simp)
    rw [blank c (by simp)] at solid
    cases solid

/-- What begins with white space at the end of a phrase is a gap and what is left when it is
trimmed, or it is nothing. -/
theorem IsPhrase.exists_gap {front behind : List Char} (phrase : IsPhrase (front ++ behind))
    (starts : ∀ c ∈ behind.head?, isBlank c) :
    ∃ gap, (∀ c ∈ gap, isBlank c) ∧ behind = gap ++ trimmed behind ∧
      (gap = [] ↔ trimmed behind = []) := by
  obtain ⟨gap, back, blank, after, whole⟩ := exists_eq_append_trimmed behind
  have closed : back = [] := by
    rw [whole, ← List.append_assoc] at phrase
    exact phrase.eq_nil_of_isBlank after
  rw [closed, List.append_nil] at whole
  refine ⟨gap, blank, whole, ?_, ?_⟩
  · rintro rfl
    rw [List.nil_append] at whole
    cases rest : trimmed behind with
    | nil => rfl
    | cons c rest =>
      have solid := head_trimmed (show (trimmed behind).head? = some c by rw [rest]; rfl)
      rw [starts c (by rw [whole, rest]; rfl)] at solid
      cases solid
  · intro nothing
    rw [nothing, List.append_nil] at whole
    exact (whole ▸ phrase).eq_nil_of_isBlank blank

/-- A phrase has a first word, and is the row of this word and of what is split off behind it. -/
theorem IsPhrase.exists_splitWord {cs : List Char} (phrase : IsPhrase cs) :
    ∃ word rest, Text.splitWord cs = (word, rest) ∧ IsWord word ∧ trimmed rest = rest ∧
      ∀ parts, (∀ part ∈ parts, IsPhrase part) → Spaced parts rest → Spaced (word :: parts) cs := by
  let solid (c : Char) : Bool := !isBlank c
  have whole : cs.takeWhile solid ++ cs.dropWhile solid = cs := List.takeWhile_append_dropWhile
  have stop : ∀ c ∈ (cs.dropWhile solid).head?, isBlank c := by
    intro c first
    have stopped := List.head?_dropWhile_not solid cs
    rw [first] at stopped
    simpa [solid] using stopped
  obtain ⟨gap, blank, behind, none⟩ := IsPhrase.exists_gap (whole.symm ▸ phrase) stop
  refine ⟨cs.takeWhile solid, trimmed (cs.dropWhile solid), rfl, ⟨?_, ?_⟩, trimmed_trimmed _, ?_⟩
  · obtain ⟨c, more, rfl⟩ := List.exists_cons_of_ne_nil phrase.1
    have first : solid c = true := by simpa [solid] using phrase.head c rfl
    rw [List.takeWhile_cons_of_pos first]
    exact List.cons_ne_nil _ _
  · intro c member
    simpa [solid] using List.mem_takeWhile_imp member
  · intro parts phrases spaced
    cases parts with
    | nil =>
      have nothing := spaced_nil_iff.mp spaced
      rw [nothing, none.mpr nothing] at behind
      rw [behind, List.append_nil, List.append_nil] at whole
      exact spaced_single_iff.mpr whole.symm
    | cons part parts =>
      have some : gap ≠ [] := fun missing =>
        (spaced.isPhrase phrases).1 (none.mp missing)
      have row := Spaced.cons (cs.takeWhile solid) some blank spaced
      rwa [List.append_assoc, ← behind, whole] at row

end GameShelf.Text
