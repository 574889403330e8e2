import Mathlib.Tactic.Ring
import GameShelf.Text.Blank
import GameShelf.Text.Digits

namespace GameShelf

namespace Text

theorem isBlank_of_isDigit {c : Char} (digit : c.isDigit) : isBlank c = false := by
  have bounds : 48 ≤ c.toNat ∧ c.toNat ≤ 57 := Char.isDigit_iff_toNat.mp digit
  simp only [isBlank, Bool.or_eq_false_iff, Bool.and_eq_false_iff, decide_eq_false_iff_not]
  omega

theorem toLower_of_isDigit {c : Char} (digit : c.isDigit) : c.toLower = c := by
  have bounds : 48 ≤ c.toNat ∧ c.toNat ≤ 57 := Char.isDigit_iff_toNat.mp digit
  refine dif_neg fun upper => ?_
  have above : 65 ≤ c.toNat := UInt32.le_iff_toNat_le.mp upper.1
  omega

end Text

theorem isDigits_iff {cs : List Char} : isDigits cs ↔ cs ≠ [] ∧ ∀ c ∈ cs, c.isDigit := by
  simp [isDigits, List.all_eq_true]

theorem dash_not_mem_of_isDigits {digits : List Char} (all : isDigits digits) :
    '-' ∉ digits := by
  intro member
  have digit := (isDigits_iff.mp all).2 '-' member
  exact absurd digit (by decide)

theorem digitsValue_replicate_zero (n : Nat) : digitsValue (List.replicate n '0') = 0 := by
  induction n with
  | zero => rfl
  | succ n ih => exact ih

theorem toList_toString (n : Nat) : (toString n).toList = Nat.toDigits 10 n := by
  simp [toString, Nat.repr]

theorem toList_dashed (first last : Nat) :
    (toString first ++ "-" ++ toString last).toList =
      Nat.toDigits 10 first ++ '-' :: Nat.toDigits 10 last := by
  simp

theorem toDigits_all (n : Nat) : ∀ c ∈ Nat.toDigits 10 n, c.isDigit = true :=
  fun _ member => Nat.isDigit_of_mem_toDigits (by decide) (by decide) member

theorem isDigits_toDigits (n : Nat) : isDigits (Nat.toDigits 10 n) :=
  isDigits_iff.mpr ⟨Nat.toDigits_ne_nil, toDigits_all n⟩

theorem digitsValue_toDigits (n : Nat) : digitsValue (Nat.toDigits 10 n) = n :=
  Nat.ofDigitChars_ten_toDigits

theorem digitsValue_append (high low : List Char) :
    digitsValue (high ++ low) = digitsValue high * 10 ^ low.length + digitsValue low := by
  calc digitsValue (high ++ low) = Nat.ofDigitChars 10 low (digitsValue high) :=
        Nat.ofDigitChars_append 0
    _ = 10 ^ low.length * digitsValue high + digitsValue low :=
        Nat.ofDigitChars_eq_ofDigitChars_zero
    _ = digitsValue high * 10 ^ low.length + digitsValue low := by rw [Nat.mul_comm]

theorem head_toDigits {n : Nat} (positive : 0 < n) :
    ∃ first tail, Nat.toDigits 10 n = first :: tail ∧ first ≠ '0' := by
  induction n using Nat.strongRecOn with
  | ind n ih =>
    by_cases small : n < 10
    · have digit : ∀ n < 10, 0 < n → n.digitChar ≠ '0' := by decide
      exact ⟨_, [], Nat.toDigits_of_lt_base small, digit n small positive⟩
    · obtain ⟨first, tail, shape, nonzero⟩ := ih (n / 10) (by omega) (by omega)
      rw [Nat.toDigits_of_base_le (by decide) (by omega), shape]
      exact ⟨first, _, rfl, nonzero⟩

/-- A row of digits ends where something else begins. -/
theorem span_digits {digits tail : List Char} (all : ∀ c ∈ digits, c.isDigit = true)
    (stop : ∀ c ∈ tail.head?, c.isDigit = false) :
    (digits ++ tail).takeWhile Char.isDigit = digits ∧
      (digits ++ tail).dropWhile Char.isDigit = tail := by
  rw [List.takeWhile_append_of_pos all, List.dropWhile_append_of_pos all]
  cases tail with
  | nil => simp
  | cons c tail =>
    have solid : c.isDigit = false := stop c rfl
    simp [solid]

end GameShelf
