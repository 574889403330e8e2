import GameShelf.Toml.Quoted
import GameShelf.Toml.QuotedForm

namespace GameShelf.Toml

namespace Quoted

theorem hexValue?_toUpper_hexDigit {n : Nat} (small : n < 16) :
    Json.Quoted.hexValue? (Json.Quoted.hexDigit n).toUpper = some n := by
  have every : ∀ n < 16, Json.Quoted.hexValue? (Json.Quoted.hexDigit n).toUpper = some n := by
    decide
  exact every n small

theorem charOf?_toNat (c : Char) : charOf? c.toNat = some c := by
  have valid : c.toNat.isValidChar := c.valid
  rw [charOf?, if_pos valid, Char.ofNat_toNat]

theorem isPlain_or_of_not_needsCode {c : Char} (free : QuotedForm.needsCode c = false) :
    isPlain c = true ∨ c = '\n' := by
  by_cases tab : c = '\t'
  · exact Or.inl (by simp [isPlain, tab])
  · by_cases lineFeed : c = '\n'
    · exact Or.inr lineFeed
    · simp [QuotedForm.needsCode, tab, lineFeed] at free
      simp [isPlain, free]

variable {multiline : Bool} {c : Char} (rest : List Char)

theorem readEscaped?_letter {letter : Char} (stands : unescape? letter = some c) :
    readEscaped? multiline .plain ('\\' :: letter :: rest) =
      cons c (readEscaped? multiline .plain rest) := by
  have known : letter ≠ 'u' ∧ letter ≠ 'U' ∧ isSpace letter = false ∧ letter ≠ '\n' := by
    refine ⟨?_, ?_, ?_, ?_⟩
    · rintro rfl
      cases stands
    · rintro rfl
      cases stands
    · rw [← Bool.not_eq_true]
      intro space
      simp only [isSpace, Bool.or_eq_true, decide_eq_true_eq] at space
      rcases space with rfl | rfl <;> cases stands
    · rintro rfl
      cases stands
  obtain ⟨notShort, notLong, solid, notLine⟩ := known
  simp [readEscaped?, stands, notShort, notLong, solid, notLine]

theorem readEscaped?_codeEscape (small : c.toNat < 0x100) :
    readEscaped? multiline .plain (QuotedForm.codeEscape c ++ rest) =
      cons c (readEscaped? multiline .plain rest) := by
  have zero : Json.Quoted.hexValue? '0' = some 0 := by decide
  have high := hexValue?_toUpper_hexDigit (show c.toNat / 16 < 16 by omega)
  have low := hexValue?_toUpper_hexDigit (show c.toNat % 16 < 16 by omega)
  have whole : 16 * (c.toNat / 16) + c.toNat % 16 = c.toNat := by omega
  simp [QuotedForm.codeEscape, readEscaped?, zero, high, low, whole, charOf?_toNat]

theorem readEscaped?_plain (plain : isPlain c = true ∨ (multiline = true ∧ c = '\n'))
    (noQuote : c ≠ '"') (noBackslash : c ≠ '\\') :
    readEscaped? multiline .plain (c :: rest) = cons c (readEscaped? multiline .plain rest) := by
  rcases plain with plain | ⟨rfl, rfl⟩
  · by_cases lineFeed : multiline = true ∧ c = '\n'
    · obtain ⟨rfl, rfl⟩ := lineFeed
      simp [readEscaped?]
    · simp only [readEscaped?]
      simp [noQuote, noBackslash, plain, lineFeed]
  · simp [readEscaped?]

/-- A quote on several lines is part of the text unless it begins a row of three. -/
theorem readEscaped?_quote {rest : List Char} (apart : ∀ after, rest ≠ '"' :: '"' :: after) :
    readEscaped? true .plain ('"' :: rest) = cons '"' (readEscaped? true .plain rest) := by
  simp [readEscaped?]

theorem readLiteral?_quote {rest : List Char} (apart : ∀ after, rest ≠ '\'' :: '\'' :: after) :
    readLiteral? true ('\'' :: rest) = cons '\'' (readLiteral? true rest) := by
  simp [readLiteral?]

theorem readLiteral?_plain (plain : isPlain c = true ∨ (multiline = true ∧ c = '\n'))
    (noQuote : c ≠ '\'') :
    readLiteral? multiline (c :: rest) = cons c (readLiteral? multiline rest) := by
  by_cases lineFeed : multiline = true ∧ c = '\n'
  · obtain ⟨rfl, rfl⟩ := lineFeed
    simp [readLiteral?]
  · have solid : isPlain c = true := plain.resolve_right lineFeed
    simp [readLiteral?, noQuote, solid, lineFeed]

theorem closing_of_apart {quote : Char} {rest : List Char} (apart : rest.head? ≠ some quote) :
    closing quote rest = ([], rest) := by
  match rest with
  | [] => rfl
  | [c] =>
    have other : c ≠ quote := by simpa using apart
    simp [closing, other]
  | c :: d :: rest =>
    have other : c ≠ quote := by simpa using apart
    simp [closing, other]

theorem closing_one {quote : Char} {rest : List Char} (apart : rest.head? ≠ some quote) :
    closing quote (quote :: rest) = ([quote], rest) := by
  cases rest with
  | nil => simp [closing]
  | cons c rest =>
    have other : c ≠ quote := by simpa using apart
    simp [closing, other]

theorem closing_two (quote : Char) (rest : List Char) :
    closing quote (quote :: quote :: rest) = ([quote, quote], rest) := by
  simp [closing]

end Quoted

end GameShelf.Toml
