import GameShelf.Proofs.Filter.Canonical
import GameShelf.Proofs.Planner.History

namespace GameShelf

namespace Clause

/-- An expression that joins texts without commas is read text by text. -/
theorem parseAll_intercalate {texts : List String} (nonempty : texts ≠ [])
    (noComma : ∀ text ∈ texts, ',' ∉ text.toList) :
    parseAll (", ".intercalate texts) = texts.map parse := by
  induction texts with
  | nil => exact absurd rfl nonempty
  | cons text texts ih =>
    have here : ',' ∉ text.toList := noComma text List.mem_cons_self
    cases texts with
    | nil => simp [parseAll, segments_eq_singleton here]
    | cons next texts =>
      have later : ∀ other ∈ next :: texts, ',' ∉ other.toList :=
        fun other member => noComma other (List.mem_cons_of_mem text member)
      have joined : (", ".intercalate (text :: next :: texts)).toList =
          text.toList ++ ',' :: ' ' :: (", ".intercalate (next :: texts)).toList := by
        simp [String.intercalate_cons_cons]
      have rest : parseAll (String.ofList (' ' :: (", ".intercalate (next :: texts)).toList)) =
          (next :: texts).map parse := by
        have blank : ∀ c ∈ [' '], Text.isBlank c := List.forall_mem_singleton.mpr (by decide)
        have nothing : ∀ c ∈ ([] : List Char), Text.isBlank c := by simp
        have spaced := parseAll_append_of_isBlank blank nothing
          (", ".intercalate (next :: texts)).toList
        rw [List.append_nil, String.ofList_toList, ih (List.cons_ne_nil _ _) later] at spaced
        exact spaced
      rw [List.map_cons, ← rest]
      simp only [parseAll, segments, joined, String.toList_ofList,
        List.splitOn_append_cons_self_of_not_mem here, List.map_cons, String.ofList_toList]

end Clause

namespace Planner

theorem mem_required {calls : List Call} {clause : Clause} (member : clause ∈ required calls) :
    ∃ text : String, ',' ∉ text.toList ∧ Clause.parse text = .ok clause := by
  obtain ⟨call, _, inCall⟩ := List.mem_flatMap.mp member
  rw [Call.clauses] at inCall
  split at inCall
  · simp at inCall
  · obtain ⟨segment, inExpression, read⟩ := List.mem_filterMap.mp inCall
    refine ⟨segment, Clause.comma_not_mem_of_mem_segments inExpression, ?_⟩
    cases reading : Clause.parse segment with
    | ok found =>
      rw [reading] at read
      exact congrArg Except.ok (Option.some.inj read)
    | error error =>
      rw [reading] at read
      cases read

/-- An expression whose readings have no error is taken reading by reading. -/
theorem accepted_and_rejected_iff {expression : String} {clauses : List Clause} :
    accepted expression = clauses ∧ rejected expression = [] ↔
      Clause.parseAll expression = clauses.map Except.ok := by
  rw [accepted, rejected]
  generalize Clause.parseAll expression = readings
  induction readings generalizing clauses with
  | nil => cases clauses <;> simp
  | cons reading readings ih =>
    cases reading with
    | error error => cases clauses <;> simp
    | ok clause =>
      cases clauses with
      | nil => simp
      | cons first clauses => simp [← ih, and_assoc]

theorem not_isBlankExpression_of_title {expression : String} {column : Column}
    (titled : column.title.toList ⊆ expression.toList) : isBlankExpression expression = false := by
  obtain ⟨c, title, shape⟩ := List.exists_cons_of_ne_nil column.title_ne_nil
  have first : c ∈ column.title.toList := shape ▸ List.mem_cons_self
  rw [Bool.eq_false_iff, Ne, isBlankExpression_iff]
  intro blank
  have clear : Text.isBlank c = false := column.not_isBlank_of_mem_title first
  simp [blank c (titled first)] at clear

/-- Clauses whose canonical texts have no comma are read back from the texts, joined, exactly if
each is read back from its own. -/
theorem addFilters_canonical_iff (games : List Game) {clauses : List Clause}
    (noComma : ∀ clause ∈ clauses, ',' ∉ clause.canonical.toList) :
    (ofGames games).addFilters (", ".intercalate (clauses.map Clause.canonical)) =
        (⟨games, clauses⟩, []) ↔
      ∀ clause ∈ clauses, Clause.parse clause.canonical = .ok clause := by
  cases clauses with
  | nil => simp [addFilters, isBlankExpression, Text.trimmed_eq_nil_iff, ofGames]
  | cons first clauses =>
    have titled : first.column.title.toList ⊆
        (", ".intercalate ((first :: clauses).map Clause.canonical)).toList := by
      intro c member
      cases clauses <;>
        simp [String.intercalate_cons_cons, Clause.toList_canonical, member]
    have noCommaTexts : ∀ text ∈ (first :: clauses).map Clause.canonical, ',' ∉ text.toList := by
      simpa using noComma
    have readings := Clause.parseAll_intercalate (by simp) noCommaTexts
    rw [addFilters, not_isBlankExpression_of_title titled]
    simp only [Bool.false_eq_true, if_false, ofGames, List.nil_append, Prod.mk.injEq,
      Planner.mk.injEq, true_and, accepted_and_rejected_iff]
    rw [Clause.parseAll_intercalate (by simp) noCommaTexts, List.map_map, List.map_inj_left]
    rfl

/-- A fresh planner takes the shown filters of a run exactly as they are, and a clause that was read
is read again from its canonical text, unless the literal begins with an equals sign behind a token
other than `==`. -/
theorem shown_filters_reread_iff (base games : List Game) (calls : List Call) :
    ((ofGames games).addFilters (", ".intercalate ((ofGames base).run calls).1.activeTexts) =
          (⟨games, ((ofGames base).run calls).1.clauses⟩, []) ↔
        ∀ clause ∈ ((ofGames base).run calls).1.clauses,
          clause.literal.toList.head? = some '=' → clause.operator = .equals) ∧
      ∀ text clause, Clause.parse text = .ok clause →
        (Clause.parse clause.canonical = .ok clause ↔
          (clause.literal.toList.head? = some '=' → clause.operator = .equals)) := by
  constructor
  · rw [run_fst, activeTexts, addFilters_canonical_iff]
    · refine forall₂_congr fun clause member => ?_
      obtain ⟨text, _, read⟩ := mem_required member
      exact (Clause.wellFormed_of_parse read).parse_canonical_iff
    · intro clause member
      obtain ⟨text, noComma, read⟩ := mem_required member
      exact Clause.comma_not_mem_canonical noComma read
  · intro text clause read
    exact (Clause.wellFormed_of_parse read).parse_canonical_iff

/-- The blank between `>` and `=5` is not shown, and `>=` is read in its place. -/
theorem shown_filter_fused :
    ((ofGames []).run [.addFilters "name> =5"]).1.clauses = [⟨.name, .greater, "=5"⟩] ∧
      ((ofGames []).run [.addFilters "name> =5"]).1.activeTexts = ["name>=5"] ∧
      (ofGames []).addFilters (", ".intercalate
          ((ofGames []).run [.addFilters "name> =5"]).1.activeTexts) =
        (⟨[], [⟨.name, .greaterOrEqual, "5"⟩]⟩, []) ∧
      (ofGames []).addFilters (", ".intercalate
          ((ofGames []).run [.addFilters "name> =5"]).1.activeTexts) ≠
        (⟨[], ((ofGames []).run [.addFilters "name> =5"]).1.clauses⟩, []) := by
  have kept : ((ofGames []).run [.addFilters "name> =5"]).1.clauses =
      [⟨.name, .greater, "=5"⟩] := by decide +kernel
  have shown : ((ofGames []).run [.addFilters "name> =5"]).1.activeTexts = ["name>=5"] := by
    rw [activeTexts, kept]
    rfl
  have reread : (ofGames []).addFilters "name>=5" =
      (⟨[], [⟨.name, .greaterOrEqual, "5"⟩]⟩, []) := by decide +kernel
  have joined : ", ".intercalate ["name>=5"] = "name>=5" := rfl
  rw [shown, joined, reread, kept]
  refine ⟨rfl, rfl, rfl, ?_⟩
  intro same
  cases same

end Planner

end GameShelf
