import GameShelf.Json.Quoted

namespace GameShelf.Json.Quoted

theorem hexValue?_hexDigit {n : Nat} (small : n < 16) : hexValue? (hexDigit n) = some n := by
  have every : ∀ n < 16, hexValue? (hexDigit n) = some n := by decide
  exact every n small

/-- Adds a character in front of what was read. -/
def cons (c : Char) (result : Option (List Piece × List Char)) :
    Option (List Piece × List Char) :=
  result.map fun (pieces, rest) => (.char c :: pieces, rest)

theorem readPieces?_letter {letter c : Char} (stands : unescape? letter = some c)
    (rest : List Char) : readPieces? ('\\' :: letter :: rest) = cons c (readPieces? rest) := by
  rw [readPieces?]
  · rw [stands]
    rfl
  · rintro _ _ _ _ _ rfl
    cases stands

theorem readPieces?_plain {c : Char} (noQuote : c ≠ '"') (noBackslash : c ≠ '\\')
    (large : ¬ c.toNat < 0x20) (rest : List Char) :
    readPieces? (c :: rest) = cons c (readPieces? rest) := by
  rw [readPieces?]
  · simp only [noBackslash, large, decide_false, Bool.or_false, Bool.false_eq_true, if_false]
    rfl
  · exact noQuote
  · intro _ _ _ _ _ backslash
    exact absurd backslash noBackslash
  · intro _ _ backslash
    exact absurd backslash noBackslash

theorem readPieces?_control {c : Char} (small : c.toNat < 0x20) (rest : List Char) :
    readPieces? ('\\' :: 'u' :: '0' :: '0' :: hexDigit (c.toNat / 16) ::
      hexDigit (c.toNat % 16) :: rest) = cons c (readPieces? rest) := by
  have zero : hexValue? '0' = some 0 := by decide
  have high := hexValue?_hexDigit (show c.toNat / 16 < 16 by omega)
  have low := hexValue?_hexDigit (show c.toNat % 16 < 16 by omega)
  have unit : hexUnit? '0' '0' (hexDigit (c.toNat / 16)) (hexDigit (c.toNat % 16)) =
      some c.toNat := by
    have whole : c.toNat / 16 * 16 + c.toNat % 16 = c.toNat := by omega
    simp only [hexUnit?, zero, high, low, Nat.zero_mul, Nat.zero_add, whole]
  have piece : ofUnit c.toNat = .char c := by
    have below : ¬ 0xd800 ≤ c.toNat := by omega
    simp [ofUnit, below, Char.ofNat_toNat]
  rw [readPieces?, unit]
  simp only [piece]
  rfl

theorem readPieces?_escape (c : Char) (rest : List Char) :
    readPieces? (escape c ++ rest) = cons c (readPieces? rest) := by
  rw [escape]
  split
  case isTrue quote => exact readPieces?_letter (by rw [quote]; rfl) rest
  split
  case isTrue backslash => exact readPieces?_letter (by rw [backslash]; rfl) rest
  split
  case isTrue lineFeed => exact readPieces?_letter (by rw [lineFeed]; rfl) rest
  split
  case isTrue carriageReturn => exact readPieces?_letter (by rw [carriageReturn]; rfl) rest
  split
  case isTrue tab => exact readPieces?_letter (by rw [tab]; rfl) rest
  split
  case isTrue backspace => exact readPieces?_letter (by rw [backspace]; rfl) rest
  split
  case isTrue formFeed => exact readPieces?_letter (by rw [formFeed]; rfl) rest
  split
  case isTrue small => exact readPieces?_control small rest
  case _ noQuote noBackslash _ _ _ _ _ large =>
    exact readPieces?_plain noQuote noBackslash large rest

theorem readPieces?_escaped (text rest : List Char) :
    readPieces? (text.flatMap escape ++ '"' :: rest) = some (text.map .char, rest) := by
  induction text with
  | nil => simp [readPieces?]
  | cons c text ih =>
    rw [List.flatMap_cons, List.append_assoc, readPieces?_escape, ih]
    rfl

theorem join?_chars (text : List Char) : join? (text.map .char) = some text := by
  induction text with
  | nil => rfl
  | cons c text ih => rw [List.map_cons, join?, ih, Option.map_some]

/-- Every content is read as it was written, up to its closing quote. -/
theorem read?_encode (content : Content) : ∃ body, encode content = '"' :: body ∧
    ∀ rest, read? (body ++ rest) = some (content, rest) := by
  cases content with
  | some text =>
    refine ⟨text.toList.flatMap escape ++ ['"'], rfl, fun rest => ?_⟩
    have whole := readPieces?_escaped text.toList rest
    simp only [List.append_assoc, List.singleton_append, read?, whole, Option.map_some, contentOf,
      join?_chars, String.ofList_toList]
  | none =>
    refine ⟨['\\', 'u', 'd', '8', '0', '0', '"'], rfl, fun rest => ?_⟩
    simp only [List.cons_append, List.nil_append, read?]
    rw [readPieces?, readPieces?]
    rfl

end GameShelf.Json.Quoted
