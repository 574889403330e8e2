import GameShelf.Proofs.Binary64.WholeNumber
import GameShelf.Proofs.Filter.Literal

namespace GameShelf
open Binary64

/-- A row of digits, behind a sign or without one, and the whole number it denotes. -/
inductive DenotesWhole : List Char → Int → Prop
  | unsigned {digits : List Char} (row : isDigits digits) :
      DenotesWhole digits (digitsValue digits)
  | plus {digits : List Char} (row : isDigits digits) :
      DenotesWhole ('+' :: digits) (digitsValue digits)
  | minus {digits : List Char} (row : isDigits digits) :
      DenotesWhole ('-' :: digits) (-(digitsValue digits : Int))

namespace Decimal

theorem splitSign_of_isDigits {digits : List Char} (row : isDigits digits) :
    splitSign digits = (false, digits) := by
  obtain ⟨nonempty, all⟩ := isDigits_iff.mp row
  obtain ⟨first, rest, rfl⟩ := List.exists_cons_of_ne_nil nonempty
  have digit := all first List.mem_cons_self
  unfold splitSign
  split
  · simp_all
  · simp_all
  · rfl

theorem readUnsigned?_of_isDigits (negative : Bool) {digits : List Char} (row : isDigits digits) :
    readUnsigned? negative digits = some ⟨negative, digitsValue digits, 0⟩ := by
  obtain ⟨nonempty, all⟩ := isDigits_iff.mp row
  have nothing : ∀ c ∈ ([] : List Char).head?, c.isDigit = false := by simp
  obtain ⟨whole, rest⟩ := span_digits all nothing
  rw [List.append_nil] at whole rest
  unfold readUnsigned?
  simp [whole, rest, splitFraction, readExponent?, nonempty]

/-- A row of digits is the name of no infinity and no NaN. -/
theorem ne_word_of_isDigits {digits : List Char} (row : isDigits digits) (word : String)
    (letters : word.toList.any Char.isDigit = false) :
    String.ofList (digits.map Char.toLower) ≠ word := by
  obtain ⟨nonempty, all⟩ := isDigits_iff.mp row
  obtain ⟨first, rest, rfl⟩ := List.exists_cons_of_ne_nil nonempty
  have digit := all first List.mem_cons_self
  rintro rfl
  rw [String.toList_ofList, List.map_cons, Text.toLower_of_isDigit digit, List.any_cons,
    digit] at letters
  cases letters

end Decimal

theorem Binary64.ofText?_of_isDigits {text : String} {negative : Bool} {digits : List Char}
    (row : isDigits digits) (split : Decimal.splitSign text.toList = (negative, digits)) :
    ofText? text = some (ofRatio negative (digitsValue digits) 1) := by
  have noNaN := Decimal.ne_word_of_isDigits row "nan" (by decide)
  have noInf := Decimal.ne_word_of_isDigits row "inf" (by decide)
  have noInfinity := Decimal.ne_word_of_isDigits row "infinity" (by decide)
  unfold ofText?
  simp only [split, noNaN, noInf, noInfinity, Decimal.readUnsigned?_of_isDigits negative row,
    if_false, Option.map_some, Decimal.toBinary64_eq]
  simp [tenTo]

/-- The double of a literal is the nearest to the number it denotes. -/
theorem DenotesWhole.exists_ofText? {literal : String} {n : Int}
    (denotes : DenotesWhole literal.toList n) :
    ∃ negative m, ofText? literal = some (ofRatio negative m 1) ∧ n = signed negative m := by
  generalize letters : literal.toList = text at denotes
  cases denotes with
  | unsigned row =>
    refine ⟨false, _, ofText?_of_isDigits row ?_, rfl⟩
    rw [letters, Decimal.splitSign_of_isDigits row]
  | plus row =>
    refine ⟨false, _, ofText?_of_isDigits row ?_, rfl⟩
    rw [letters]
    rfl
  | minus row =>
    refine ⟨true, _, ofText?_of_isDigits row ?_, rfl⟩
    rw [letters]
    rfl

/-- The comparison of whole numbers that an ordering operator asks for. -/
def Operator.Holds : Operator → Int → Int → Prop
  | equals, a, b => a = b
  | notEquals, a, b => a ≠ b
  | greaterOrEqual, a, b => a ≥ b
  | lessOrEqual, a, b => a ≤ b
  | greater, a, b => a > b
  | less, a, b => a < b
  | contains, _, _ => False

theorem Operator.accepts_compare_iff (operator : Operator) (a b : Int) :
    operator.accepts (some (compare a b)) ↔ operator.Holds a b := by
  unfold Holds
  rcases lt_trichotomy a b with below | level | above
  · rw [compare_lt_iff_lt.mpr below]
    cases operator <;> simp [accepts, accepted] <;> omega
  · rw [compare_eq_iff_eq.mpr level]
    cases operator <;> simp [accepts, accepted] <;> omega
  · rw [compare_gt_iff_gt.mpr above]
    cases operator <;> simp [accepts, accepted] <;> omega

/-- The whole number that a game has in a column, if the column holds whole numbers. -/
def Column.whole? (column : Column) (game : Game) : Option Int :=
  match column with
  | .name | .rating | .difficulty => none
  | .rank => some game.rank.toNat
  | .minPlayers => some game.minPlayers.toNat
  | .maxPlayers => some game.maxPlayers.toNat
  | .minTime => some game.minPlayTime.toNat
  | .maxTime => some game.maxPlayTime.toNat
  | .year => some game.yearPublished.toInt

theorem Column.value_of_whole? {column : Column} {game : Game} {stored : Int}
    (whole : column.whole? game = some stored) :
    ∃ negative m, column.value game = .number (ofRatio negative m 1) ∧
      stored = signed negative m ∧ m + 1 < 2 ^ 53 := by
  have word (n : UInt32) : ∃ negative m, Value.number (.ofNat n.toNat) =
      .number (ofRatio negative m 1) ∧ (n.toNat : Int) = signed negative m ∧ m + 1 < 2 ^ 53 := by
    have bound := n.toNat_lt
    exact ⟨false, n.toNat, rfl, rfl, by omega⟩
  cases column with
  | name | rating | difficulty => cases whole
  | year =>
    cases whole
    have low := game.yearPublished.le_toInt
    have high := game.yearPublished.toInt_lt
    exact ⟨_, _, rfl, (signed_natAbs _).symm, by omega⟩
  | _ =>
    cases whole
    exact word _

namespace Clause

/-- On a column of whole numbers a clause compares the number stored with the one its literal
denotes, and not their doubles: of digits there may be any number, also more than a double tells
apart or can hold. -/
theorem accepts_whole_iff {column : Column} {operator : Operator} {literal : String} {game : Game}
    {stored n : Int} (whole : column.whole? game = some stored)
    (denotes : DenotesWhole literal.toList n) (ordering : operator.isOrdering) :
    (predicate ⟨column, operator, literal⟩).accepts game ↔ operator.Holds stored n := by
  obtain ⟨left, m, value, rfl, small⟩ := Column.value_of_whole? whole
  obtain ⟨right, digits, read, rfl⟩ := denotes.exists_ofText?
  have readable (_ : column.kind = .number) : ∃ value, ofText? literal = some value := ⟨_, read⟩
  rw [accepts_eq ordering readable, Column.against_of_number value read, partialOrder_whole small]
  exact operator.accepts_compare_iff _ _

/-- The least year, above a number whose double is an infinity. -/
theorem accepts_whole_iff_of_overflow :
    let game : Game := ⟨"Senet", 1, 2, 2, 30, 30, default, 1, default, Int32.minValue⟩
    let literal := String.ofList ('-' :: List.replicate 400 '9')
    ofText? literal = some (.infinity true) ∧
      Column.year.whole? game = some (-2147483648) ∧
      DenotesWhole literal.toList (-((10 ^ 400 - 1 : Nat) : Int)) ∧
      (predicate ⟨.year, .greater, literal⟩).accepts game := by
  intro game literal
  have row : isDigits (List.replicate 400 '9') := by decide +kernel
  have value : digitsValue (List.replicate 400 '9') = 10 ^ 400 - 1 := by decide +kernel
  have split : Decimal.splitSign literal.toList = (true, List.replicate 400 '9') := by
    rw [String.toList_ofList]
    rfl
  have overflow : ofText? literal = some (.infinity true) := by
    rw [ofText?_of_isDigits row split, value]
    exact congrArg some (ofRatio_of_overflow (by decide +kernel))
  have whole : Column.year.whole? game = some (-2147483648) := rfl
  have denotes : DenotesWhole literal.toList (-((10 ^ 400 - 1 : Nat) : Int)) := by
    rw [String.toList_ofList, ← value]
    exact .minus row
  have above : (-2147483648 : Int) > -((10 ^ 400 - 1 : Nat) : Int) := by decide +kernel
  exact ⟨overflow, whole, denotes, (accepts_whole_iff whole denotes rfl).mpr above⟩

end Clause

end GameShelf
