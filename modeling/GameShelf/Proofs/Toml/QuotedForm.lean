import GameShelf.Proofs.Toml.Quoted

namespace GameShelf.Toml

namespace QuotedForm

open Quoted

/-- How a character that is no quote is written between double quotes. -/
def spelled (multiline : Bool) (c : Char) : List Char :=
  match shortEscape? multiline c with
  | some escape => escape
  | none => if needsCode c then codeEscape c else [c]

theorem escaped_cons_of_ne {multiline : Bool} {quotes : Nat} {c : Char} (noQuote : c ≠ '"')
    (text : List Char) :
    escaped multiline quotes (c :: text) = spelled multiline c ++ escaped multiline 0 text := by
  rw [escaped, if_neg noQuote, spelled]
  cases shortEscape? multiline c with
  | some escape => rfl
  | none => by_cases code : needsCode c <;> simp [code]

theorem escaped_quote {multiline : Bool} {quotes : Nat} (short : multiline = true ∧ quotes < 2)
    (text : List Char) :
    escaped multiline quotes ('"' :: text) = '"' :: escaped multiline (quotes + 1) text := by
  have few : (multiline && decide (quotes < 2)) = true := by
    rwa [Bool.and_eq_true, decide_eq_true_eq]
  rw [escaped, if_pos rfl, if_pos few]

theorem escaped_quote_of_not {multiline : Bool} {quotes : Nat}
    (long : ¬ (multiline = true ∧ quotes < 2)) (text : List Char) :
    escaped multiline quotes ('"' :: text) = '\\' :: '"' :: escaped multiline 0 text := by
  have many : ¬ (multiline && decide (quotes < 2)) = true := by
    rwa [Bool.and_eq_true, decide_eq_true_eq]
  rw [escaped, if_pos rfl, if_neg many]

theorem shortEscape?_eq_some {multiline : Bool} {c : Char} {escape : List Char}
    (short : shortEscape? multiline c = some escape) :
    ∃ letter, escape = ['\\', letter] ∧ unescape? letter = some c := by
  simp only [shortEscape?] at short
  split at short
  case isTrue same =>
    exact ⟨'\\', (Option.some.inj short).symm, by rw [same]; rfl⟩
  split at short
  case isTrue same =>
    exact ⟨'t', (Option.some.inj short).symm, by rw [same]; rfl⟩
  split at short
  case isTrue same =>
    exact ⟨'r', (Option.some.inj short).symm, by rw [same]; rfl⟩
  split at short
  case isTrue same =>
    exact ⟨'b', (Option.some.inj short).symm, by rw [same]; rfl⟩
  split at short
  case isTrue same =>
    exact ⟨'f', (Option.some.inj short).symm, by rw [same]; rfl⟩
  split at short
  case isTrue same =>
    simp only [Bool.and_eq_true, decide_eq_true_eq] at same
    exact ⟨'n', (Option.some.inj short).symm, same.1 ▸ rfl⟩
  cases short

/-- A character without a short escape is no backslash, and only on several lines a line feed. -/
theorem of_shortEscape?_eq_none {multiline : Bool} {c : Char}
    (long : shortEscape? multiline c = none) : c ≠ '\\' ∧ (c = '\n' → multiline = true) := by
  constructor
  · rintro rfl
    cases long
  · rintro rfl
    cases multiline
    · cases long
    · rfl

theorem readEscaped?_spelled {multiline : Bool} {c : Char} (noQuote : c ≠ '"')
    (rest : List Char) :
    readEscaped? multiline .plain (spelled multiline c ++ rest) =
      cons c (readEscaped? multiline .plain rest) := by
  rw [spelled]
  cases short : shortEscape? multiline c with
  | some escape =>
    obtain ⟨letter, rfl, stands⟩ := shortEscape?_eq_some short
    exact readEscaped?_letter rest stands
  | none =>
    obtain ⟨noBackslash, lines⟩ := of_shortEscape?_eq_none short
    by_cases code : needsCode c = true
    · have small : c.toNat < 0x100 := by
        simp [needsCode] at code
        omega
      simpa only [code, if_true] using readEscaped?_codeEscape rest small
    · have free : needsCode c = false := by simpa using code
      have plain : isPlain c = true ∨ (multiline = true ∧ c = '\n') :=
        (isPlain_or_of_not_needsCode free).imp_right fun line => ⟨lines line, line⟩
      simpa [code] using readEscaped?_plain rest plain noQuote noBackslash

theorem readEscaped?_escaped_line (text rest : List Char) (quotes : Nat) :
    readEscaped? false .plain (escaped false quotes text ++ '"' :: rest) = some (text, rest) := by
  induction text generalizing quotes with
  | nil => simp [escaped, readEscaped?]
  | cons c text ih =>
    by_cases quote : c = '"'
    · have stands : unescape? '"' = some c := by rw [quote]; rfl
      have whole : escaped false quotes (c :: text) = '\\' :: '"' :: escaped false 0 text := by
        simp [escaped, quote]
      rw [whole, List.cons_append, List.cons_append, readEscaped?_letter _ stands, ih]
      rfl
    · rw [escaped_cons_of_ne quote, List.append_assoc, readEscaped?_spelled quote, ih]
      rfl

/-- What is written for a text begins with a backslash or with the first character of the text,
which is a quote only on several lines and not as the third in its row. -/
theorem exists_head_escaped (multiline : Bool) (quotes : Nat) (c : Char) (text : List Char) :
    ∃ first tail, escaped multiline quotes (c :: text) = first :: tail ∧
      (first = '\\' ∨ first = c ∧ (c = '"' → multiline = true ∧ quotes < 2)) := by
  by_cases quote : c = '"'
  · by_cases row : multiline = true ∧ quotes < 2
    · exact ⟨'"', _, by rw [quote, escaped_quote row], Or.inr ⟨quote.symm, fun _ => row⟩⟩
    · exact ⟨'\\', _, by rw [quote, escaped_quote_of_not row], Or.inl rfl⟩
  · rw [escaped_cons_of_ne quote, spelled]
    cases short : shortEscape? multiline c with
    | some escape =>
      obtain ⟨letter, rfl, _⟩ := shortEscape?_eq_some short
      exact ⟨'\\', _, rfl, Or.inl rfl⟩
    | none =>
      by_cases code : needsCode c
      · exact ⟨'\\', _, by simp [code, codeEscape]; rfl, Or.inl rfl⟩
      · exact ⟨c, _, by simp [code]; rfl, Or.inr ⟨rfl, fun same => absurd same quote⟩⟩

theorem escaped_cons_apart {multiline : Bool} {quotes : Nat} {c : Char}
    (apart : ¬ (c = '"' ∧ multiline = true ∧ quotes < 2)) (text rest after : List Char) :
    escaped multiline quotes (c :: text) ++ rest ≠ '"' :: after := by
  obtain ⟨first, tail, shape, head⟩ := exists_head_escaped multiline quotes c text
  rw [shape, List.cons_append]
  intro same
  rcases head with rfl | ⟨rfl, row⟩
  · cases same
  · have quote := (List.cons.inj same).1
    exact apart ⟨quote, row quote⟩

theorem eq_lineFeed_of_escaped {multiline : Bool} {quotes : Nat} {c : Char}
    {text rest after : List Char}
    (same : escaped multiline quotes (c :: text) ++ rest = '\n' :: after) : c = '\n' := by
  obtain ⟨first, tail, shape, head⟩ := exists_head_escaped multiline quotes c text
  rw [shape, List.cons_append] at same
  rcases head with rfl | ⟨rfl, _⟩
  · cases same
  · exact (List.cons.inj same).1

theorem readEscaped?_escaped_lines {rest : List Char} (apart : rest.head? ≠ some '"')
    (text : List Char) {quotes : Nat} (few : quotes ≤ 2) :
    readEscaped? true .plain (escaped true quotes text ++ '"' :: '"' :: '"' :: rest) =
      some (text, rest) := by
  induction text generalizing quotes with
  | nil => simp [escaped, readEscaped?, closing_of_apart apart]
  | cons c text ih =>
    by_cases quote : c = '"'
    · subst quote
      by_cases row : quotes < 2
      · have whole : escaped true quotes ('"' :: text) = '"' :: escaped true (quotes + 1) text := by
          simp [escaped, row]
        rw [whole, List.cons_append]
        -- up to two quotes at the end are read together with the closing ones
        cases text with
        | nil => simp [escaped, readEscaped?, closing_one apart]
        | cons d text =>
          by_cases another : d = '"' ∧ true = true ∧ quotes + 1 < 2
          · obtain ⟨rfl, _, second⟩ := another
            have pair : escaped true (quotes + 1) ('"' :: text) =
                '"' :: escaped true (quotes + 2) text := by
              simp [escaped, second]
            cases text with
            | nil => simp [escaped, second, readEscaped?, closing_two]
            | cons e text =>
              have third : ¬ (e = '"' ∧ true = true ∧ quotes + 2 < 2) := fun both => by omega
              rw [readEscaped?_quote, ih (by omega)]
              · rfl
              · intro after same
                rw [pair, List.cons_append, List.cons.injEq] at same
                exact escaped_cons_apart third text _ after same.2
          · rw [readEscaped?_quote, ih (by omega)]
            · rfl
            · intro after
              exact escaped_cons_apart another text _ ('"' :: after)
      · have whole : escaped true quotes ('"' :: text) = '\\' :: '"' :: escaped true 0 text := by
          simp [escaped, row]
        have stands : unescape? '"' = some '"' := rfl
        rw [whole, List.cons_append, List.cons_append, readEscaped?_letter _ stands,
          ih (by omega)]
        rfl
    · rw [escaped_cons_of_ne quote, List.append_assoc, readEscaped?_spelled quote, ih (by omega)]
      rfl

theorem readLiteral?_line {text : List Char} (plain : ∀ c ∈ text, isPlain c = true)
    (noQuote : '\'' ∉ text) (rest : List Char) :
    readLiteral? false (text ++ '\'' :: rest) = some (text, rest) := by
  induction text with
  | nil => simp [readLiteral?]
  | cons c text ih =>
    simp only [List.mem_cons, not_or] at noQuote
    rw [List.cons_append, readLiteral?_plain _ (Or.inl (plain c List.mem_cons_self))
      (Ne.symm noQuote.1), ih (fun d member => plain d (List.mem_cons_of_mem c member)) noQuote.2]
    rfl

theorem le_longestRow (quote : Char) (row : Nat) (text : List Char) :
    row ≤ longestRow quote row text := by
  induction text generalizing row with
  | nil => exact Nat.le_refl row
  | cons c text ih =>
    rw [longestRow]
    split
    · exact Nat.le_trans (Nat.le_succ row) (ih (row + 1))
    · exact Nat.le_max_left row _

theorem longestRow_tail_le {quote c : Char} {row : Nat} {text : List Char} {bound : Nat}
    (short : longestRow quote row (c :: text) ≤ bound) :
    longestRow quote (if c = quote then row + 1 else 0) text ≤ bound := by
  rw [longestRow] at short
  by_cases same : c = quote
  · simpa [same] using short
  · simp only [same, if_false] at short ⊢
    exact Nat.le_trans (Nat.le_max_right row _) short

theorem readLiteral?_lines {rest : List Char} (apart : rest.head? ≠ some '\'')
    {text : List Char} {row : Nat} (plain : ∀ c ∈ text, isPlain c = true ∨ c = '\n')
    (short : longestRow '\'' row text ≤ 2) :
    readLiteral? true (text ++ '\'' :: '\'' :: '\'' :: rest) = some (text, rest) := by
  induction text generalizing row with
  | nil => simp [readLiteral?, closing_of_apart apart]
  | cons c text ih =>
    have later : ∀ d ∈ text, isPlain d = true ∨ d = '\n' :=
      fun d member => plain d (List.mem_cons_of_mem c member)
    have tail := longestRow_tail_le short
    by_cases quote : c = '\''
    · subst quote
      rw [if_pos rfl] at tail
      rw [List.cons_append]
      cases text with
      | nil => simp [readLiteral?, closing_one apart]
      | cons d text =>
        by_cases another : d = '\''
        · subst another
          cases text with
          | nil => simp [readLiteral?, closing_two]
          | cons e text =>
            have second := longestRow_tail_le tail
            rw [if_pos rfl] at second
            have third : e ≠ '\'' := by
              rintro rfl
              have long := le_longestRow '\'' (row + 1 + 1 + 1) text
              have bounded := longestRow_tail_le second
              rw [if_pos rfl] at bounded
              omega
            rw [readLiteral?_quote (by simp [third]), ih later tail]
            rfl
        · rw [readLiteral?_quote (by simp [another]), ih later tail]
          rfl
    · have solid : isPlain c = true ∨ (true = true ∧ c = '\n') :=
        (plain c List.mem_cons_self).imp_right fun line => ⟨rfl, line⟩
      rw [List.cons_append, readLiteral?_plain _ solid quote, ih later tail]
      rfl

theorem not_mem_of_longestRow_eq_zero {quote : Char} {text : List Char}
    (none : longestRow quote 0 text = 0) : quote ∉ text := by
  induction text with
  | nil => exact List.not_mem_nil
  | cons c text ih =>
    have tail := longestRow_tail_le (Nat.le_of_eq none)
    by_cases same : c = quote
    · rw [if_pos same] at tail
      have long := le_longestRow quote (0 + 1) text
      omega
    · rw [if_neg same] at tail
      have later := ih (Nat.le_zero.mp tail)
      rw [List.mem_cons, not_or]
      exact ⟨fun equal => same equal.symm, later⟩

theorem isPlain_or_of_any_needsCode {text : List Char} (free : text.any needsCode = false) :
    ∀ c ∈ text, isPlain c = true ∨ c = '\n' := by
  intro c member
  exact isPlain_or_of_not_needsCode (by simpa using List.any_eq_false.mp free c member)

/-- Single quotes hold characters as they are, so none of them may be a quote or need an escape. -/
theorem literal_of_choose {text : List Char} (chosen : choose text = .literal) :
    (∀ c ∈ text, isPlain c = true) ∧ '\'' ∉ text := by
  simp only [choose] at chosen
  split at chosen
  · cases chosen
  split at chosen
  case isTrue holds =>
    simp only [Bool.and_eq_true, Bool.not_eq_true', decide_eq_true_eq] at holds
    obtain ⟨⟨free, single⟩, lines⟩ := holds
    refine ⟨fun c member => ?_, not_mem_of_longestRow_eq_zero single⟩
    refine (isPlain_or_of_any_needsCode free c member).resolve_right ?_
    rintro rfl
    simp [member] at lines
  split at chosen
  · cases chosen
  split at chosen
  · cases chosen
  split at chosen <;> cases chosen

theorem literalLines_of_choose {text : List Char} (chosen : choose text = .literalLines) :
    (∀ c ∈ text, isPlain c = true ∨ c = '\n') ∧ longestRow '\'' 0 text ≤ 2 := by
  simp only [choose] at chosen
  split at chosen
  · cases chosen
  split at chosen
  · cases chosen
  split at chosen
  · cases chosen
  split at chosen
  case isTrue holds =>
    simp only [Bool.and_eq_true, Bool.not_eq_true', decide_eq_true_eq] at holds
    exact ⟨isPlain_or_of_any_needsCode holds.1, holds.2⟩
  split at chosen <;> cases chosen

theorem dropLineBreak_opening {text body : List Char}
    (start : ∀ after, body = '\n' :: after → '\n' ∈ text) :
    dropLineBreak (opening text ++ body) = body := by
  by_cases lines : '\n' ∈ text
  · simp [opening, lines, dropLineBreak]
  · have alone : opening text = [] := by simp [opening, lines]
    rw [alone, List.nil_append, dropLineBreak]
    exact fun after same => lines (start after same)

theorem read?_of_double {body : List Char} (apart : ∀ after, body ≠ '"' :: '"' :: after) :
    Quoted.read? ('"' :: body) = readEscaped? false .plain body := by
  rw [Quoted.read?]
  · rfl
  · exact fun after same => apart after (List.cons.inj same).2
  · simp

theorem read?_of_single {body : List Char} (apart : ∀ after, body ≠ '\'' :: '\'' :: after) :
    Quoted.read? ('\'' :: body) = readLiteral? false body := by
  rw [Quoted.read?]
  · rfl
  · simp
  · exact fun after same => apart after (List.cons.inj same).2

/-- Every text is read as it was written, if no quote comes right behind it. -/
theorem read?_encode (text : List Char) {rest : List Char} (double : rest.head? ≠ some '"')
    (single : rest.head? ≠ some '\'') :
    Quoted.read? (encode text ++ rest) = some (text, rest) := by
  rw [encode]
  cases chosen : choose text with
  | basic =>
    have whole := readEscaped?_escaped_line text rest 0
    simp only [List.cons_append, List.append_assoc, List.nil_append]
    rw [read?_of_double, whole]
    intro after
    cases text with
    | nil =>
      intro same
      simp only [escaped, List.nil_append, List.cons.injEq, true_and] at same
      simp [same] at double
    | cons c text =>
      exact escaped_cons_apart (by simp) text _ ('"' :: after)
  | literal =>
    obtain ⟨plain, noQuote⟩ := literal_of_choose chosen
    have whole := readLiteral?_line plain noQuote rest
    simp only [List.cons_append, List.append_assoc, List.nil_append]
    rw [read?_of_single, whole]
    intro after same
    cases text with
    | nil =>
      simp only [List.nil_append, List.cons.injEq, true_and] at same
      simp [same] at single
    | cons c text =>
      simp only [List.cons_append, List.cons.injEq] at same
      exact noQuote (same.1 ▸ List.mem_cons_self)
  | basicLines =>
    have whole := readEscaped?_escaped_lines double text (Nat.zero_le 2)
    simp only [List.cons_append, List.append_assoc, List.nil_append, Quoted.read?]
    rw [dropLineBreak_opening, whole]
    intro after same
    cases text with
    | nil => simp [escaped] at same
    | cons c text => exact eq_lineFeed_of_escaped same ▸ List.mem_cons_self
  | literalLines =>
    obtain ⟨plain, short⟩ := literalLines_of_choose chosen
    have whole := readLiteral?_lines single plain short
    simp only [List.cons_append, List.append_assoc, List.nil_append, Quoted.read?]
    rw [dropLineBreak_opening, whole]
    intro after same
    cases text with
    | nil => simp at same
    | cons c text =>
      simp only [List.cons_append, List.cons.injEq] at same
      exact same.1 ▸ List.mem_cons_self

theorem carriageReturn_not_mem_spelled (multiline : Bool) (c : Char) :
    '\r' ∉ spelled multiline c := by
  rw [spelled]
  cases short : shortEscape? multiline c with
  | some escape =>
    obtain ⟨letter, rfl, stands⟩ := shortEscape?_eq_some short
    have other : letter ≠ '\r' := by
      rintro rfl
      cases stands
    simp [other.symm]
  | none =>
    by_cases code : needsCode c = true
    · have small : c.toNat < 0x100 := by
        simp [needsCode] at code
        omega
      have digits : ∀ n < 16, (Json.Quoted.hexDigit n).toUpper ≠ '\r' := by decide
      have high := digits (c.toNat / 16) (by omega)
      have low := digits (c.toNat % 16) (by omega)
      simp [code, codeEscape, high.symm, low.symm]
    · have other : c ≠ '\r' := by
        rintro rfl
        cases short
      simp [code, other.symm]

theorem carriageReturn_not_mem_escaped (multiline : Bool) (quotes : Nat) (text : List Char) :
    '\r' ∉ escaped multiline quotes text := by
  induction text generalizing quotes with
  | nil => exact List.not_mem_nil
  | cons c text ih =>
    by_cases quote : c = '"'
    · by_cases row : multiline = true ∧ quotes < 2
      · rw [quote, escaped_quote row]
        simpa using ih (quotes + 1)
      · rw [quote, escaped_quote_of_not row]
        simpa using ih 0
    · rw [escaped_cons_of_ne quote]
      exact List.not_mem_append (carriageReturn_not_mem_spelled multiline c) (ih 0)

/-- Carriage returns are always escaped, so none is taken for part of a line end. -/
theorem carriageReturn_not_mem_encode (text : List Char) : '\r' ∉ encode text := by
  have opened : '\r' ∉ opening text := by
    by_cases lines : '\n' ∈ text <;> simp [opening, lines]
  rw [encode]
  cases chosen : choose text with
  | basic => simp [carriageReturn_not_mem_escaped]
  | literal =>
    have plain := (literal_of_choose chosen).1 '\r'
    simp only [List.cons_append, List.mem_cons, List.mem_append, List.not_mem_nil, or_false]
    rintro (quote | member | quote)
    · cases quote
    · cases plain member
    · cases quote
  | basicLines => simp [opened, carriageReturn_not_mem_escaped]
  | literalLines =>
    have plain := (literalLines_of_choose chosen).1 '\r'
    have absent : '\r' ∉ text := by
      intro member
      rcases plain member with control | line
      · cases control
      · cases line
    simp [opened, absent]

end QuotedForm

end GameShelf.Toml
