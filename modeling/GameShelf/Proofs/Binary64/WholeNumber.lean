import GameShelf.Proofs.Binary64.Decimal

namespace GameShelf

theorem compare_congr {a b c d : Int} (below : a < b ↔ c < d) (above : b < a ↔ d < c) :
    compare a b = compare c d := by
  rcases lt_trichotomy a b with less | same | greater
  · rw [compare_lt_iff_lt.mpr less, compare_lt_iff_lt.mpr (below.mp less)]
  · have level : c = d := by omega
    rw [same, level, compare_eq_iff_eq.mpr rfl, compare_eq_iff_eq.mpr rfl]
  · rw [compare_gt_iff_gt.mpr greater, compare_gt_iff_gt.mpr (above.mp greater)]

namespace Binary64

/-- The whole number with this sign and absolute value. -/
def signed (negative : Bool) (n : Nat) : Int :=
  if negative then -(n : Int) else n

theorem signed_natAbs (n : Int) : signed (n < 0) n.natAbs = n := by
  unfold signed
  by_cases negative : n < 0
  · rw [if_pos (decide_eq_true negative)]
    omega
  · rw [if_neg (by simpa using negative)]
    omega

theorem signedMagnitude_eq (x : Binary64) : x.signedMagnitude = signed x.negative x.magnitude :=
  rfl

theorem magnitude_ofRatio_one (negative : Bool) (n : Nat) :
    (ofRatio negative n 1).magnitude = (ofNat n).magnitude := by
  rw [ofNat, magnitude_ofRatio, magnitude_ofRatio]

theorem isNaN_ofRatio (negative : Bool) (num den : Nat) :
    (ofRatio negative num den).isNaN = false := by
  unfold isNaN
  rw [magnitude_ofRatio, decide_eq_false_iff_not, Nat.not_lt]
  exact min_le_right _ _

/-- The doubles of two numbers are apart if one is below 2^53. -/
theorem magnitude_ofNat_lt {m n : Nat} (less : m < n) (small : m + 1 < 2 ^ 53) :
    (ofNat m).magnitude < (ofNat n).magnitude := by
  by_contra level
  have above : (ofNat n).units ≤ (ofNat m).units := unitsOf_le (Nat.not_lt.mp level)
  have next := units_ofNat_le (show m + 1 ≤ n from less)
  rw [units_ofNat small] at next
  rw [units_ofNat (show m < 2 ^ 53 by omega)] at above
  have impossible := Nat.le_of_mul_le_mul_right (next.trans above) unitsPerOne_pos
  omega

theorem magnitude_ofNat_lt_iff {m : Nat} (n : Nat) (small : m + 1 < 2 ^ 53) :
    ((ofNat m).magnitude < (ofNat n).magnitude ↔ m < n) ∧
      ((ofNat n).magnitude < (ofNat m).magnitude ↔ n < m) := by
  refine ⟨⟨fun apart => ?_, fun less => magnitude_ofNat_lt less small⟩,
    ⟨fun apart => ?_, fun less => magnitude_ofNat_lt less (by omega)⟩⟩
  · by_contra le
    have order := magnitude_ofNat_le (show n ≤ m by omega)
    omega
  · by_contra le
    have order := magnitude_ofNat_le (show m ≤ n by omega)
    omega

/-- A double below 2^53 without places behind the point compares with any whole number, however it
was rounded, as the numbers themselves do. -/
theorem partialOrder_whole {m : Nat} (small : m + 1 < 2 ^ 53) (n : Nat) (left right : Bool) :
    (ofRatio left m 1).partialOrder (ofRatio right n 1) =
      some (compare (signed left m) (signed right n)) := by
  unfold partialOrder
  rw [isNaN_ofRatio, isNaN_ofRatio, signedMagnitude_eq, signedMagnitude_eq, negative_ofRatio,
    negative_ofRatio, magnitude_ofRatio_one, magnitude_ofRatio_one]
  have zero : (ofNat 0).magnitude = 0 := by decide +kernel
  obtain ⟨below, above⟩ := magnitude_ofNat_lt_iff n small
  obtain ⟨positive, -⟩ := magnitude_ofNat_lt_iff m (show 0 + 1 < 2 ^ 53 by omega)
  obtain ⟨alsoPositive, -⟩ := magnitude_ofNat_lt_iff n (show 0 + 1 < 2 ^ 53 by omega)
  rw [zero] at positive alsoPositive
  refine congrArg some (compare_congr ?_ ?_)
  all_goals
    unfold signed
    cases left <;> cases right <;> simp only [Bool.false_eq_true, if_true, if_false] <;> omega

end Binary64

end GameShelf
