import GameShelf.Proofs.Filter.Canonical
import GameShelf.Proofs.Filter.Expression
import GameShelf.Proofs.Text.Positions

namespace GameShelf

namespace Column

/-- The titles differ by more than the case of their letters. -/
theorem eq_of_same_title {one two : Column} {title : String}
    (first : Text.sameIgnoringAsciiCase one.title title = true)
    (second : Text.sameIgnoringAsciiCase two.title title = true) : one = two := by
  have every : ∀ one ∈ all, ∀ two ∈ all,
      one.title.toList.map Char.toLower = two.title.toList.map Char.toLower → one = two := by
    decide
  rw [Text.sameIgnoringAsciiCase, beq_iff_eq] at first second
  exact every one one.mem_all two two.mem_all (first.trans second.symm)

theorem ofTitle?_eq_none_iff {text : String} :
    ofTitle? text = none ↔
      ∀ column : Column, Text.sameIgnoringAsciiCase column.title (Text.trim text) = false := by
  simp [ofTitle?, mem_all]

theorem ofTitle?_eq_some_iff {text : String} {column : Column} :
    ofTitle? text = some column ↔
      Text.sameIgnoringAsciiCase column.title (Text.trim text) = true := by
  have titled {other : Column} (found : ofTitle? text = some other) :
      Text.sameIgnoringAsciiCase other.title (Text.trim text) = true := by
    have passes := List.find?_some found
    exact passes
  refine ⟨titled, fun same => ?_⟩
  cases found : ofTitle? text with
  | none =>
    rw [ofTitle?_eq_none_iff.mp found column] at same
    cases same
  | some other => rw [eq_of_same_title (titled found) same]

/-- A text is read as the column that has it for a title. If there is none, the message repeats the
text without the white space around it. -/
theorem read_eq_iff {text : String} {result : Except String Column} :
    read text = result ↔
      (∃ column : Column, Text.sameIgnoringAsciiCase column.title (Text.trim text) = true ∧
        result = .ok column) ∨
      (∀ column : Column, Text.sameIgnoringAsciiCase column.title (Text.trim text) = false) ∧
        result = .error ("unknown column: " ++ Text.trim text) := by
  rw [read]
  cases found : ofTitle? text with
  | none =>
    have unknown := ofTitle?_eq_none_iff.mp found
    simp [unknown, unknownMessage, eq_comm]
  | some column =>
    have titled := ofTitle?_eq_some_iff.mp found
    constructor
    · rintro rfl
      exact Or.inl ⟨column, titled, rfl⟩
    · rintro (⟨other, same, rfl⟩ | ⟨unknown, -⟩)
      · rw [eq_of_same_title titled same]
      · rw [unknown column] at titled
        cases titled

end Column

namespace Operator

/-- The operator whose token is the first, in the order of the search, to occur in a text. -/
def Leads (operator : Operator) (text : List Char) : Prop :=
  operator.token.toList <:+: text ∧ ∀ other ∈ operator.earlier, ¬ other.token.toList <:+: text

theorem detect?_eq_none_iff {clause : List Char} :
    detect? clause = none ↔ ∀ operator : Operator, ¬ operator.token.toList <:+: clause := by
  simp [detect?, mem_all, ← Text.occursIn_iff_infix]

theorem token_ne_nil (operator : Operator) : operator.token.toList ≠ [] := by
  cases operator <;> decide

end Operator

namespace Clause

/-- The mark occurs once in the text, and with these texts before and after it, but for the white
space around them. -/
def Divides (mark text : List Char) (title literal : String) : Prop :=
  ∃ p, Text.positions mark 0 text = [p] ∧
    title = String.ofList (Text.trimmed (text.take p)) ∧
    literal = String.ofList (Text.trimmed (text.drop (p + mark.length)))

theorem sides?_eq_some_iff_divides {mark text : List Char} (nonempty : mark ≠ [])
    {title literal : String} :
    sides? mark text = some (title, literal) ↔
      Divides mark text title literal ∧ title ≠ "" ∧ literal ≠ "" := by
  rw [sides?_eq_some_iff]
  constructor
  · rintro ⟨left, right, split, once, titled, filled, rfl, rfl⟩
    obtain ⟨before, after⟩ := Text.parts_of_splitFirst split
    refine ⟨⟨left.length, ?_, by rw [before], by rw [after]⟩, ?_, ?_⟩
    · exact (Text.positions_eq_singleton_iff nonempty).mpr ⟨left, right, split, once, rfl⟩
    · rwa [Ne, ← String.toList_eq_nil_iff, String.toList_ofList]
    · rwa [Ne, ← String.toList_eq_nil_iff, String.toList_ofList]
  · rintro ⟨⟨p, single, rfl, rfl⟩, titled, filled⟩
    obtain ⟨left, right, split, once, rfl⟩ := (Text.positions_eq_singleton_iff nonempty).mp single
    obtain ⟨before, after⟩ := Text.parts_of_splitFirst split
    rw [Ne, ← String.toList_eq_nil_iff, String.toList_ofList] at titled filled
    rw [before] at titled ⊢
    rw [after] at filled ⊢
    exact ⟨left, right, split, once, titled, filled, rfl, rfl⟩

/-- What a text is read as. -/
inductive Reads (text : String) : Except ClauseError Clause → Prop
  | empty (blank : Text.trim text = "") : Reads text (.error .empty)
  | missingOperator (filled : Text.trim text ≠ "")
      (absent : ∀ operator : Operator, ¬ operator.token.toList <:+: (Text.trim text).toList) :
      Reads text (.error (.missingOperator (Text.trim text)))
  | malformed {operator : Operator} (leads : operator.Leads (Text.trim text).toList)
      (undivided : ∀ title literal,
        Divides operator.token.toList (Text.trim text).toList title literal →
          title = "" ∨ literal = "") :
      Reads text (.error (.malformed (Text.trim text)))
  | unknownColumn {operator : Operator} {title literal : String}
      (leads : operator.Leads (Text.trim text).toList)
      (divides : Divides operator.token.toList (Text.trim text).toList title literal)
      (titled : title ≠ "") (filled : literal ≠ "")
      (unknown : ∀ column : Column, Text.sameIgnoringAsciiCase column.title title = false) :
      Reads text (.error (.unknownColumn title (Column.suggest? title)))
  | clause {operator : Operator} {title literal : String} {column : Column}
      (leads : operator.Leads (Text.trim text).toList)
      (divides : Divides operator.token.toList (Text.trim text).toList title literal)
      (titled : title ≠ "") (filled : literal ≠ "")
      (known : Text.sameIgnoringAsciiCase column.title title = true) :
      Reads text (.ok ⟨column, operator, literal⟩)

/-- Where a token occurs, the text is no clause for one of two reasons, or it is one. -/
theorem parse_of_leads {text : String} {operator : Operator}
    (leads : operator.Leads (Text.trim text).toList) :
    parse text =
      match sides? operator.token.toList (Text.trim text).toList with
      | none => .error (.malformed (Text.trim text))
      | some (title, literal) =>
        match Column.ofTitle? title with
        | none => .error (.unknownColumn title (Column.suggest? title))
        | some column => .ok ⟨column, operator, literal⟩ := by
  have detected := Operator.detect?_eq_some_iff.mpr leads
  have filled : (Text.trimmed text.toList).isEmpty = false := by
    rw [List.isEmpty_eq_false_iff, ← Text.toList_trim]
    intro empty
    rw [empty] at leads
    exact operator.token_ne_nil (List.infix_nil.mp leads.1)
  rw [Text.toList_trim] at detected ⊢
  cases split : sides? operator.token.toList (Text.trimmed text.toList) with
  | none => simp only [parse, Text.trim, filled, detected, split, Bool.false_eq_true, if_false]
  | some parts =>
    cases found : Column.ofTitle? parts.1 <;>
      simp only [parse, filled, detected, split, found, Bool.false_eq_true, if_false]

theorem Divides.trim_title {mark text : List Char} {title literal : String}
    (divides : Divides mark text title literal) : Text.trim title = title := by
  obtain ⟨p, -, rfl, -⟩ := divides
  rw [Text.trim, String.toList_ofList, Text.trimmed_trimmed]

theorem parse_of_reads {text : String} {result : Except ClauseError Clause}
    (reads : Reads text result) : parse text = result := by
  cases reads with
  | empty blank => exact parse_of_trim_eq_empty blank
  | missingOperator filled absent =>
    rw [Ne, ← String.toList_eq_nil_iff, Text.toList_trim] at filled
    rw [Text.toList_trim] at absent
    simp only [parse, Text.trim, List.isEmpty_iff, filled, if_false,
      Operator.detect?_eq_none_iff.mpr absent]
  | @malformed operator leads undivided =>
    rw [parse_of_leads leads]
    cases parts : sides? operator.token.toList (Text.trim text).toList with
    | none => rfl
    | some parts =>
      obtain ⟨divides, titled, filled⟩ :=
        (sides?_eq_some_iff_divides operator.token_ne_nil).mp parts
      exact absurd (undivided _ _ divides) (not_or.mpr ⟨titled, filled⟩)
  | @unknownColumn operator title literal leads divides titled filled unknown =>
    have parts := (sides?_eq_some_iff_divides operator.token_ne_nil).mpr ⟨divides, titled, filled⟩
    have none : Column.ofTitle? title = none := by
      rw [Column.ofTitle?_eq_none_iff, divides.trim_title]
      exact unknown
    simp only [parse_of_leads leads, parts, none]
  | @clause operator title literal column leads divides titled filled known =>
    have parts := (sides?_eq_some_iff_divides operator.token_ne_nil).mpr ⟨divides, titled, filled⟩
    have found : Column.ofTitle? title = some column := by
      rw [Column.ofTitle?_eq_some_iff, divides.trim_title]
      exact known
    simp only [parse_of_leads leads, parts, found]

theorem exists_reads (text : String) : ∃ result, Reads text result := by
  by_cases blank : Text.trim text = ""
  · exact ⟨_, .empty blank⟩
  cases detected : Operator.detect? (Text.trim text).toList with
  | none => exact ⟨_, .missingOperator blank (Operator.detect?_eq_none_iff.mp detected)⟩
  | some operator =>
    have leads : operator.Leads (Text.trim text).toList :=
      Operator.detect?_eq_some_iff.mp detected
    have divided {title literal : String} :
        sides? operator.token.toList (Text.trim text).toList = some (title, literal) ↔ _ :=
      sides?_eq_some_iff_divides operator.token_ne_nil
    cases parts : sides? operator.token.toList (Text.trim text).toList with
    | none =>
      refine ⟨_, .malformed leads fun title literal divides => ?_⟩
      by_contra filled
      have both := divided.mpr ⟨divides, not_or.mp filled⟩
      rw [parts] at both
      cases both
    | some sides =>
      obtain ⟨title, literal⟩ := sides
      obtain ⟨divides, titled, filled⟩ := divided.mp parts
      cases found : Column.ofTitle? title with
      | none =>
        have unknown := Column.ofTitle?_eq_none_iff.mp found
        rw [divides.trim_title] at unknown
        exact ⟨_, .unknownColumn leads divides titled filled unknown⟩
      | some column =>
        have known := Column.ofTitle?_eq_some_iff.mp found
        rw [divides.trim_title] at known
        exact ⟨_, .clause leads divides titled filled known⟩

theorem parse_eq_iff_reads {text : String} {result : Except ClauseError Clause} :
    parse text = result ↔ Reads text result := by
  refine ⟨?_, parse_of_reads⟩
  rintro rfl
  obtain ⟨result, reads⟩ := exists_reads text
  rwa [parse_of_reads reads]

/-- Reading takes exactly the texts of the grammar for clauses, and gives one reason for each other
text. A title belongs to one column only, and the literal of a clause is filled and trimmed, and
holds neither the token of the clause nor one that is searched for before it. -/
theorem parse_follows_grammar (text : String) :
    (∀ result, parse text = result ↔ Reads text result) ∧
      (∀ (title : String) (one two : Column),
        Text.sameIgnoringAsciiCase one.title title = true →
          Text.sameIgnoringAsciiCase two.title title = true → one = two) ∧
      ∀ clause, parse text = .ok clause →
        clause.literal ≠ "" ∧ Text.trim clause.literal = clause.literal ∧
          ¬ clause.operator.token.toList <:+: clause.literal.toList ∧
          ∀ other ∈ clause.operator.earlier, ¬ other.token.toList <:+: clause.literal.toList := by
  refine ⟨fun result => parse_eq_iff_reads, fun title one two => Column.eq_of_same_title, ?_⟩
  intro clause read
  exact wellFormed_iff.mp (wellFormed_of_parse read)

/-- Of three equals signs the first two are the token. -/
example : parse "Name=== Go" = .ok ⟨.name, .equals, "= Go"⟩ := by
  decide +kernel

end Clause

end GameShelf
