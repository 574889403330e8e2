import GameShelf.Proofs.Filter.Expression
import GameShelf.Proofs.Text.Occurrence

namespace GameShelf

theorem find?_eq_some_iff_takeWhile {α : Type} [DecidableEq α] {p : α → Bool} {xs : List α} {a : α}
    (member : a ∈ xs) :
    xs.find? p = some a ↔ p a = true ∧ ∀ b ∈ xs.takeWhile (· ≠ a), ¬ p b = true := by
  induction xs with
  | nil => simp at member
  | cons x xs ih =>
    by_cases same : x = a
    · subst same
      by_cases passes : p x
      · simp [passes]
      · simpa [passes] using fun found => passes (List.find?_some found)
    · have later : a ∈ xs := by simpa [Ne.symm same] using member
      by_cases passes : p x
      · simp [passes, same]
      · simp [passes, same, ih later]

namespace Column

theorem not_isBlank_of_mem_title {column : Column} {c : Char} (member : c ∈ column.title.toList) :
    Text.isBlank c = false := by
  have solid : column.title.toList.all (!Text.isBlank ·) = true := by
    cases column <;> decide
  simpa using List.all_eq_true.mp solid c member

theorem title_ne_nil (column : Column) : column.title.toList ≠ [] := by
  cases column <;> decide

theorem trimmed_title (column : Column) :
    Text.trimmed column.title.toList = column.title.toList :=
  Text.trimmed_eq_self (fun _ first => not_isBlank_of_mem_title (List.mem_of_head? first))
    (fun _ last => not_isBlank_of_mem_title (List.mem_of_getLast? last))

theorem comma_not_mem_title (column : Column) : ',' ∉ column.title.toList := by
  cases column <;> decide

theorem ofTitle?_title (column : Column) : ofTitle? column.title = some column := by
  cases column <;> decide

end Column

namespace Operator

/-- The operators that a clause is searched for before this one. -/
def earlier (operator : Operator) : List Operator :=
  all.takeWhile (· ≠ operator)

theorem detect?_eq_some_iff {clause : List Char} {operator : Operator} :
    detect? clause = some operator ↔ operator.token.toList <:+: clause ∧
      ∀ other ∈ operator.earlier, ¬ other.token.toList <:+: clause := by
  rw [detect?, find?_eq_some_iff_takeWhile operator.mem_all]
  simp only [Text.occursIn_iff_infix]
  rfl

theorem exists_head_token (operator : Operator) :
    ∃ m mark, operator.token.toList = m :: mark ∧ ∀ column : Column, m ∉ column.title.toList := by
  cases operator <;> exact ⟨_, _, rfl, fun column => by cases column <;> decide⟩

/-- No token can begin inside a title. -/
theorem token_infix_title_append_iff (operator : Operator) (column : Column) (rest : List Char) :
    operator.token.toList <:+: column.title.toList ++ rest ↔ operator.token.toList <:+: rest := by
  obtain ⟨m, mark, shape, fresh⟩ := operator.exists_head_token
  rw [shape]
  exact Text.infix_append_iff_of_not_mem (fresh column)

theorem not_mem_comma_token (operator : Operator) : ',' ∉ operator.token.toList := by
  cases operator <;> decide

theorem singleton_prefix_iff {c : Char} {cs : List Char} : [c] <+: cs ↔ cs.head? = some c := by
  cases cs <;> simp [List.cons_prefix_cons, eq_comm]

/-- With a literal behind the token, an earlier token comes from the literal, or from an equals sign
at its start that fuses with the token. Three equals signs in a row still begin with `==`. -/
theorem earlier_free_token_append_iff (operator : Operator) (literal : List Char) :
    (∀ other ∈ operator.earlier, ¬ other.token.toList <:+: operator.token.toList ++ literal) ↔
      (∀ other ∈ operator.earlier, ¬ other.token.toList <:+: literal) ∧
        (literal.head? = some '=' → operator = .equals) := by
  cases operator <;>
    simp [earlier, all, token, List.infix_cons_iff, List.cons_prefix_cons, singleton_prefix_iff]
  all_goals tauto

end Operator

namespace Clause

/-- What reading has made sure of in a clause: its literal is there, is trimmed, and holds neither
its own token nor one that is searched for earlier. -/
structure WellFormed (clause : Clause) : Prop where
  nonempty : clause.literal.toList ≠ []
  trimmed : Text.trimmed clause.literal.toList = clause.literal.toList
  ownToken : ¬ clause.operator.token.toList <:+: clause.literal.toList
  earlierTokens : ∀ other ∈ clause.operator.earlier, ¬ other.token.toList <:+: clause.literal.toList

theorem sides?_eq_some_iff {token text : List Char} {title literal : String} :
    sides? token text = some (title, literal) ↔ ∃ left right,
      Text.splitFirst token text = some (left, right) ∧ ¬ token <:+: right ∧
      Text.trimmed left ≠ [] ∧ Text.trimmed right ≠ [] ∧
      title = String.ofList (Text.trimmed left) ∧ literal = String.ofList (Text.trimmed right) := by
  rw [sides?]
  cases split : Text.splitFirst token text with
  | none => simp
  | some parts =>
    obtain ⟨left, right⟩ := parts
    simp only [Option.ite_none_left_eq_some, Bool.or_eq_true, not_or, Text.occursIn_iff_infix,
      List.isEmpty_iff, Option.some.injEq, Prod.mk.injEq]
    constructor
    · rintro ⟨⟨⟨absent, titled⟩, filled⟩, rfl, rfl⟩
      exact ⟨left, right, ⟨rfl, rfl⟩, absent, titled, filled, rfl, rfl⟩
    · rintro ⟨_, _, ⟨rfl, rfl⟩, absent, titled, filled, rfl, rfl⟩
      exact ⟨⟨⟨absent, titled⟩, filled⟩, rfl, rfl⟩

/-- A clause is read from a text that splits around its token, if that token is found first. -/
theorem parse_eq_ok_iff {text : String} {clause : Clause} :
    parse text = .ok clause ↔ ∃ left right,
      Operator.detect? (Text.trimmed text.toList) = some clause.operator ∧
      Text.splitFirst clause.operator.token.toList (Text.trimmed text.toList) = some (left, right) ∧
      ¬ clause.operator.token.toList <:+: right ∧
      Text.trimmed left ≠ [] ∧ Text.trimmed right ≠ [] ∧
      Column.ofTitle? (String.ofList (Text.trimmed left)) = some clause.column ∧
      clause.literal = String.ofList (Text.trimmed right) := by
  rw [parse]
  generalize Text.trimmed text.toList = cs
  obtain ⟨column, operator, literal⟩ := clause
  have nothing : Operator.detect? [] = none := by decide
  by_cases empty : cs = []
  · subst empty
    simp [nothing]
  simp only [List.isEmpty_iff, if_neg empty]
  constructor
  · intro read
    split at read
    · cases read
    rename_i found detected
    split at read
    · cases read
    rename_i title value parts
    split at read
    · cases read
    rename_i target known
    cases read
    obtain ⟨left, right, split, absent, titled, filled, rfl, rfl⟩ := sides?_eq_some_iff.mp parts
    exact ⟨left, right, detected, split, absent, titled, filled, known, rfl⟩
  · rintro ⟨left, right, detected, split, absent, titled, filled, known, rfl⟩
    have parts := sides?_eq_some_iff.mpr ⟨left, right, split, absent, titled, filled, rfl, rfl⟩
    simp only [detected, parts, known]

theorem wellFormed_of_parse {text : String} {clause : Clause} (read : parse text = .ok clause) :
    clause.WellFormed := by
  obtain ⟨left, right, detected, split, absent, _, filled, _, literal⟩ := parse_eq_ok_iff.mp read
  have kept : clause.literal.toList = Text.trimmed right := by rw [literal, String.toList_ofList]
  have inside : clause.literal.toList <:+: right := kept ▸ Text.trimmed_infix right
  have within : right <:+: Text.trimmed text.toList :=
    ⟨_, [], by rw [Text.eq_append_of_splitFirst split, List.append_nil]⟩
  refine ⟨kept ▸ filled, kept ▸ Text.trimmed_trimmed right, ?_, ?_⟩
  · exact fun own => absent (own.trans inside)
  · intro other before found
    exact (Operator.detect?_eq_some_iff.mp detected).2 other before
      (found.trans (inside.trans within))

/-- A clause that was read has no comma if its segment has none. -/
theorem comma_not_mem_canonical {text : String} {clause : Clause} (noComma : ',' ∉ text.toList)
    (read : parse text = .ok clause) : ',' ∉ clause.canonical.toList := by
  obtain ⟨left, right, _, split, _, _, _, _, literal⟩ := parse_eq_ok_iff.mp read
  have inside : clause.literal.toList ⊆ text.toList := by
    intro c member
    rw [literal, String.toList_ofList] at member
    refine (Text.trimmed_infix text.toList).subset ?_
    rw [Text.eq_append_of_splitFirst split]
    exact List.mem_append_right _ ((Text.trimmed_infix right).subset member)
  simp only [canonical, String.toList_append, List.mem_append, not_or]
  exact ⟨⟨clause.column.comma_not_mem_title, clause.operator.not_mem_comma_token⟩,
    fun member => noComma (inside member)⟩

theorem toList_canonical (clause : Clause) :
    clause.canonical.toList =
      clause.column.title.toList ++ (clause.operator.token.toList ++ clause.literal.toList) := by
  simp [canonical]

namespace WellFormed

variable {clause : Clause}

theorem trimmed_canonical (formed : clause.WellFormed) :
    Text.trimmed clause.canonical.toList = clause.canonical.toList := by
  rw [toList_canonical]
  obtain ⟨c, title, shape⟩ := List.exists_cons_of_ne_nil clause.column.title_ne_nil
  refine Text.trimmed_eq_self ?_ ?_
  · intro first atStart
    rw [shape, List.cons_append, List.head?_cons, Option.mem_some_iff] at atStart
    exact clause.column.not_isBlank_of_mem_title (shape ▸ atStart ▸ List.mem_cons_self)
  · intro last atEnd
    rw [← List.append_assoc, List.getLast?_append_of_ne_nil _ formed.nonempty,
      ← formed.trimmed] at atEnd
    exact Text.getLast_trimmed atEnd

/-- The token is found first in the canonical text unless it fuses with the literal. -/
theorem detect?_canonical (formed : clause.WellFormed) :
    Operator.detect? clause.canonical.toList = some clause.operator ↔
      (clause.literal.toList.head? = some '=' → clause.operator = .equals) := by
  rw [Operator.detect?_eq_some_iff, toList_canonical]
  simp only [Operator.token_infix_title_append_iff, Operator.earlier_free_token_append_iff]
  constructor
  · rintro ⟨_, _, apart⟩
    exact apart
  · intro apart
    exact ⟨(List.prefix_append _ _).isInfix, formed.earlierTokens, apart⟩

theorem splitFirst_canonical (clause : Clause) :
    Text.splitFirst clause.operator.token.toList clause.canonical.toList =
      some (clause.column.title.toList, clause.literal.toList) := by
  obtain ⟨m, mark, shape, fresh⟩ := clause.operator.exists_head_token
  rw [toList_canonical, shape, ← List.append_assoc]
  exact Text.splitFirst_of_not_mem clause.literal.toList (fresh clause.column)

/-- A clause that was read once is read again from its canonical text, unless its literal begins
with an equals sign that another token takes to itself. -/
theorem parse_canonical_iff (formed : clause.WellFormed) :
    parse clause.canonical = .ok clause ↔
      (clause.literal.toList.head? = some '=' → clause.operator = .equals) := by
  rw [← formed.detect?_canonical, parse_eq_ok_iff, formed.trimmed_canonical]
  constructor
  · rintro ⟨_, _, detected, _⟩
    exact detected
  · intro detected
    have titled : Text.trimmed clause.column.title.toList = clause.column.title.toList :=
      clause.column.trimmed_title
    refine ⟨_, _, detected, splitFirst_canonical clause, formed.ownToken, ?_, ?_, ?_, ?_⟩
    · rw [titled]
      exact clause.column.title_ne_nil
    · rw [formed.trimmed]
      exact formed.nonempty
    · rw [titled, String.ofList_toList]
      exact clause.column.ofTitle?_title
    · rw [formed.trimmed, String.ofList_toList]

end WellFormed

theorem wellFormed_iff {clause : Clause} :
    clause.WellFormed ↔ clause.literal ≠ "" ∧ Text.trim clause.literal = clause.literal ∧
      ¬ clause.operator.token.toList <:+: clause.literal.toList ∧
      ∀ other ∈ clause.operator.earlier, ¬ other.token.toList <:+: clause.literal.toList := by
  rw [Ne, ← String.toList_eq_nil_iff, ← String.toList_inj, Text.toList_trim]
  constructor
  · rintro ⟨nonempty, trimmed, ownToken, earlierTokens⟩
    exact ⟨nonempty, trimmed, ownToken, earlierTokens⟩
  · rintro ⟨nonempty, trimmed, ownToken, earlierTokens⟩
    exact ⟨nonempty, trimmed, ownToken, earlierTokens⟩

/-- A clause is read from its canonical text exactly if it could have been read from some text and
its token does not fuse with its literal. -/
theorem canonical_reread_iff (column : Column) (operator : Operator) (literal : String) :
    parse (canonical ⟨column, operator, literal⟩) = .ok ⟨column, operator, literal⟩ ↔
      literal ≠ "" ∧ Text.trim literal = literal ∧
      ¬ operator.token.toList <:+: literal.toList ∧
      (∀ other ∈ operator.earlier, ¬ other.token.toList <:+: literal.toList) ∧
      (literal.toList.head? = some '=' → operator = .equals) := by
  constructor
  · intro read
    have formed := wellFormed_of_parse read
    have apart := formed.parse_canonical_iff.mp read
    obtain ⟨nonempty, trimmed, ownToken, earlierTokens⟩ := wellFormed_iff.mp formed
    exact ⟨nonempty, trimmed, ownToken, earlierTokens, apart⟩
  · rintro ⟨nonempty, trimmed, ownToken, earlierTokens, apart⟩
    have formed : WellFormed ⟨column, operator, literal⟩ :=
      wellFormed_iff.mpr ⟨nonempty, trimmed, ownToken, earlierTokens⟩
    exact formed.parse_canonical_iff.mpr apart

end Clause

end GameShelf
