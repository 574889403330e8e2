import GameShelf.Planner
import GameShelf.Proofs.Text.Occurrence
import GameShelf.Proofs.Text.Trimming

namespace GameShelf

namespace Clause

theorem toList_segments (expression : String) :
    (segments expression).map String.toList = expression.toList.splitOn ',' := by
  simp [segments, Function.comp_def]

theorem segments_eq_singleton {expression : String} (noComma : ',' ∉ expression.toList) :
    segments expression = [expression] := by
  simp [segments, List.splitOn_eq_singleton noComma]

theorem comma_not_mem_of_mem_segments {expression segment : String}
    (member : segment ∈ segments expression) : ',' ∉ segment.toList := by
  have split : segment.toList ∈ expression.toList.splitOn ',' := by
    rw [← toList_segments]
    exact List.mem_map_of_mem member
  exact Text.not_mem_of_mem_splitOn split

theorem parse_of_trim_eq_empty {text : String} (blank : Text.trim text = "") :
    parse text = .error .empty := by
  have empty : Text.trimmed text.toList = [] := by
    rw [← Text.toList_trim, blank]
    rfl
  simp [parse, empty]

theorem parse_append_of_isBlank {front back : List Char} (before : ∀ c ∈ front, Text.isBlank c)
    (after : ∀ c ∈ back, Text.isBlank c) (cs : List Char) :
    parse (String.ofList (front ++ cs ++ back)) = parse (String.ofList cs) := by
  simp only [parse, String.toList_ofList, Text.trimmed_append_of_isBlank before after]

theorem comma_not_mem_of_isBlank {cs : List Char} (blank : ∀ c ∈ cs, Text.isBlank c) :
    ',' ∉ cs :=
  fun comma => absurd (blank ',' comma) (by decide)

/-- Blanks around an expression belong to its first and its last segment. -/
theorem parseAll_append_of_isBlank {front back : List Char} (before : ∀ c ∈ front, Text.isBlank c)
    (after : ∀ c ∈ back, Text.isBlank c) (cs : List Char) :
    parseAll (String.ofList (front ++ cs ++ back)) = parseAll (String.ofList cs) := by
  have empty : ∀ c ∈ ([] : List Char), Text.isBlank c := by simp
  have noFront := comma_not_mem_of_isBlank before
  have noBack := comma_not_mem_of_isBlank after
  have atStart : ∀ cs, parseAll (String.ofList (front ++ cs)) = parseAll (String.ofList cs) := by
    intro cs
    by_cases comma : ',' ∈ cs
    · obtain ⟨first, rest, rfl, noComma⟩ := List.eq_append_cons_of_mem comma
      have parsed := parse_append_of_isBlank before empty first
      rw [List.append_nil] at parsed
      simp only [parseAll, segments, String.toList_ofList, ← List.append_assoc,
        List.splitOn_append_cons_self_of_not_mem noComma,
        List.splitOn_append_cons_self_of_not_mem (List.not_mem_append noFront noComma),
        List.map_cons, parsed]
    · have parsed := parse_append_of_isBlank before empty cs
      rw [List.append_nil] at parsed
      simp only [parseAll, segments, String.toList_ofList, List.splitOn_eq_singleton comma,
        List.splitOn_eq_singleton (List.not_mem_append noFront comma), List.map_cons, List.map_nil,
        parsed]
  have atEnd : parseAll (String.ofList (cs ++ back)) = parseAll (String.ofList cs) := by
    have parsed := parse_append_of_isBlank empty after
    simp only [List.nil_append] at parsed
    by_cases comma : ',' ∈ cs
    · obtain ⟨last, rest, turned, noComma⟩ :=
        List.eq_append_cons_of_mem (List.mem_reverse.mpr comma)
      have whole : cs = rest.reverse ++ ',' :: last.reverse := by
        rw [← List.reverse_reverse cs, turned]
        simp
      have inLast : ',' ∉ last.reverse := by simpa using noComma
      rw [whole, List.append_assoc, List.cons_append]
      simp only [parseAll, segments, String.toList_ofList, List.splitOn_append_cons_self,
        List.splitOn_eq_singleton inLast,
        List.splitOn_eq_singleton (List.not_mem_append inLast noBack), List.map_append,
        List.map_cons, List.map_nil, parsed]
    · simp only [parseAll, segments, String.toList_ofList, List.splitOn_eq_singleton comma,
        List.splitOn_eq_singleton (List.not_mem_append comma noBack), List.map_cons, List.map_nil,
        parsed]
  rw [List.append_assoc, atStart, atEnd]

/-- The clauses and the errors are the readings of the segments: each segment is read as one of
the two, and both stand in the order of the segments. -/
inductive Accounts : List String → List Clause → List ClauseError → Prop
  | nil : Accounts [] [] []
  | accepted {segment segments clause clauses errors} (read : parse segment = .ok clause)
      (rest : Accounts segments clauses errors) :
      Accounts (segment :: segments) (clause :: clauses) errors
  | rejected {segment segments error clauses errors} (read : parse segment = .error error)
      (rest : Accounts segments clauses errors) :
      Accounts (segment :: segments) clauses (error :: errors)

end Clause

namespace Planner

theorem accounts_filterMap (segments : List String) :
    Clause.Accounts segments
      ((segments.map Clause.parse).filterMap fun
        | .ok clause => some clause
        | .error _ => none)
      ((segments.map Clause.parse).filterMap fun
        | .ok _ => none
        | .error error => some error) := by
  induction segments with
  | nil => exact .nil
  | cons segment segments ih =>
    cases read : Clause.parse segment with
    | ok clause => simpa [read] using Clause.Accounts.accepted read ih
    | error error => simpa [read] using Clause.Accounts.rejected read ih

theorem accounts_of_expression (expression : String) :
    Clause.Accounts ((expression.toList.splitOn ',').map String.ofList) (accepted expression)
      (rejected expression) :=
  accounts_filterMap (Clause.segments expression)

theorem isBlankExpression_iff {expression : String} :
    isBlankExpression expression ↔ ∀ c ∈ expression.toList, Text.isBlank c := by
  rw [isBlankExpression, List.isEmpty_iff, Text.trimmed_eq_nil_iff]

/-- A blank expression is one segment, and that segment is no clause. -/
theorem accepted_of_blank {expression : String} (blank : ∀ c ∈ expression.toList, Text.isBlank c) :
    accepted expression = [] := by
  simp [accepted, Clause.parseAll,
    Clause.segments_eq_singleton (Clause.comma_not_mem_of_isBlank blank),
    Clause.parse_of_trim_eq_empty (Text.trim_eq_empty_iff.mpr blank)]

/-- An expression may be trimmed before it is read. -/
theorem addFilters_trim (planner : Planner) (expression : String) :
    planner.addFilters (Text.trim expression) = planner.addFilters expression := by
  obtain ⟨front, back, before, after, whole⟩ := Text.exists_eq_append_trimmed expression.toList
  have parsed : Clause.parseAll (Text.trim expression) = Clause.parseAll expression := by
    have same := Clause.parseAll_append_of_isBlank before after (Text.trimmed expression.toList)
    rw [← whole, String.ofList_toList] at same
    exact same.symm
  have blank : isBlankExpression (Text.trim expression) = isBlankExpression expression := by
    rw [isBlankExpression, Text.toList_trim, Text.trimmed_trimmed, isBlankExpression]
  simp only [addFilters, blank, accepted, rejected, parsed]

end Planner

end GameShelf
