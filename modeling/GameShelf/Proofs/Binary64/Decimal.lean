import GameShelf.Proofs.Json.Numeral

namespace GameShelf

namespace Binary64

theorem nearestMagnitude_zero {den : Nat} (positive : 0 < den) : nearestMagnitude 0 den = 0 := by
  have nothing := nearest_unitsOf 0 den positive
  rw [unitsOf_of_lt fractionCount_pos, Nat.zero_mul] at nothing
  refine nearestMagnitude_eq positive ?_
  rwa [Nat.zero_mul]

theorem ofRatio_of_magnitude_zero {negative : Bool} {num den : Nat}
    (zero : nearestMagnitude num den = 0) : ofRatio negative num den = .zero negative := by
  simp only [ofRatio, zero]
  rfl

theorem ofRatio_of_overflow {negative : Bool} {num den : Nat}
    (overflow : infinityMagnitude ≤ nearestMagnitude num den) :
    ofRatio negative num den = .infinity negative :=
  dif_neg (Nat.not_lt.mpr overflow)

end Binary64

namespace Decimal

open Binary64

theorem overflow_of_le {n places : Nat} (nonzero : n ≠ 0) {e : Int} (large : places ≤ e)
    (top : infinityMagnitude ≤ nearestMagnitude (10 ^ places) 1) :
    infinityMagnitude ≤ nearestMagnitude (n * (tenTo e).1) (tenTo e).2 := by
  have below : 10 ^ places ≤ n * 10 ^ e.toNat :=
    calc 10 ^ places ≤ 10 ^ e.toNat := Nat.pow_le_pow_right (by decide) (by omega)
      _ ≤ n * 10 ^ e.toNat := Nat.le_mul_of_pos_left _ (Nat.pos_of_ne_zero nonzero)
  have whole : (tenTo e).2 = 1 := by
    rw [tenTo, show (-e).toNat = 0 by omega]
  refine top.trans (nearestMagnitude_mono Nat.one_pos (tenTo_pos e).2 ?_)
  rw [whole, Nat.mul_one, Nat.mul_one]
  exact below

/-- The places after the point outnumber the digits by so much that nothing is left. -/
theorem underflow_of_le {n places : Nat} {e : Int} (small : e ≤ -(n.log2 + 1 + places : Int))
    (bottom : nearestMagnitude 1 (10 ^ places) = 0) :
    nearestMagnitude (n * (tenTo e).1) (tenTo e).2 = 0 := by
  have below : n * 10 ^ places ≤ 10 ^ (-e).toNat :=
    calc n * 10 ^ places ≤ 2 ^ (n.log2 + 1) * 10 ^ places :=
          Nat.mul_le_mul_right _ Nat.lt_log2_self.le
      _ ≤ 10 ^ (n.log2 + 1) * 10 ^ places :=
          Nat.mul_le_mul_right _ (Nat.pow_le_pow_left (by decide) _)
      _ = 10 ^ (n.log2 + 1 + places) := (Nat.pow_add 10 _ _).symm
      _ ≤ 10 ^ (-e).toNat := Nat.pow_le_pow_right (by decide) (by omega)
  have whole : (tenTo e).1 = 1 := by
    rw [tenTo, show e.toNat = 0 by omega]
  have order :
      nearestMagnitude (n * (tenTo e).1) (tenTo e).2 ≤ nearestMagnitude 1 (10 ^ places) := by
    refine nearestMagnitude_mono (tenTo_pos e).2 (Nat.pow_pos (by decide)) ?_
    rwa [whole, Nat.mul_one, Nat.one_mul]
  exact Nat.le_zero.mp (bottom ▸ order)

/-- The shortcuts make no difference. -/
theorem toBinary64_eq (d : Decimal) :
    d.toBinary64 =
      .ofRatio d.negative (d.coefficient * (tenTo d.exponent).1) (tenTo d.exponent).2 := by
  rw [toBinary64]
  split
  case isTrue nothing =>
    rw [nothing, Nat.zero_mul, ofRatio_of_magnitude_zero]
    exact nearestMagnitude_zero (tenTo_pos _).2
  split
  case isTrue nonzero large =>
    have places : ((401 : Nat) : Int) ≤ d.exponent := large
    exact (ofRatio_of_overflow (overflow_of_le nonzero places (by decide +kernel))).symm
  split
  case isTrue _ _ small =>
    have places : d.exponent ≤ -(d.coefficient.log2 + 1 + (401 : Nat) : Int) := by omega
    exact (ofRatio_of_magnitude_zero (underflow_of_le places (by decide +kernel))).symm
  case isFalse => rfl

end Decimal

/-- The digits that a finite double is written with are nearest to that double. -/
theorem Numeral.toBinary64_ofFinite {x : Binary64} (finite : x.isFinite = true) :
    (ofFinite x).toDecimal.toBinary64 = x := by
  obtain ⟨sign, -, nearest⟩ := ofFinite_spec x
  have negative : (ofFinite x).toDecimal.negative = x.negative := sign
  rw [Decimal.toBinary64_eq, negative]
  exact Binary64.ofRatio_eq finite (Binary64.tenTo_pos _).2 nearest

end GameShelf
