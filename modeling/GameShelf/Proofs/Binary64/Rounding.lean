import Mathlib.Tactic.Linarith
import Mathlib.Tactic.Ring
import GameShelf.Binary64.Rounding

namespace GameShelf

/-- What is rounded is at most a half away from the result, and exactly a half only from an even
one. -/
theorem roundHalfEven_near (num : Nat) {den : Nat} (positive : 0 < den) :
    2 * (roundHalfEven num den * den) ≤ 2 * num + den ∧
      2 * num ≤ 2 * (roundHalfEven num den * den) + den ∧
      (roundHalfEven num den % 2 = 1 →
        2 * (roundHalfEven num den * den) < 2 * num + den ∧
          2 * num < 2 * (roundHalfEven num den * den) + den) := by
  have whole : den * (num / den) + num % den = num := Nat.div_add_mod num den
  have small : num % den < den := Nat.mod_lt num positive
  rw [Nat.mul_comm] at whole
  rw [roundHalfEven]
  by_cases below : 2 * (num % den) < den
  · simp only [if_pos below]
    omega
  · by_cases above : den < 2 * (num % den)
    · have next : (num / den + 1) * den = num / den * den + den := Nat.succ_mul _ _
      simp only [if_neg below, if_pos above]
      omega
    · simp only [if_neg below, if_neg above]
      rcases Nat.mod_two_eq_zero_or_one (num / den) with even | odd
      · rw [even, Nat.add_zero]
        omega
      · have next : (num / den + 1) * den = num / den * den + den := Nat.succ_mul _ _
        rw [odd]
        omega

theorem le_roundHalfEven (num den : Nat) :
    num / den ≤ roundHalfEven num den ∧ roundHalfEven num den ≤ num / den + 1 := by
  rw [roundHalfEven]
  split
  · omega
  · split <;> omega

namespace Binary64

theorem fractionCount_pos : 0 < fractionCount := by decide

theorem unitsOf_of_lt {magnitude : Nat} (small : magnitude < fractionCount) :
    unitsOf magnitude = magnitude := by
  rw [unitsOf, if_pos small]

theorem unitsOf_normal (field : Nat) {fraction : Nat} (small : fraction < fractionCount) :
    unitsOf ((field + 1) * fractionCount + fraction) =
      (fractionCount + fraction) * Nat.pow 2 field := by
  have large : ¬ (field + 1) * fractionCount + fraction < fractionCount := by
    rw [Nat.succ_mul]
    omega
  have quotient : ((field + 1) * fractionCount + fraction) / fractionCount = field + 1 := by
    rw [Nat.mul_comm, Nat.mul_add_div fractionCount_pos, Nat.div_eq_of_lt small, Nat.add_zero]
  have rest : ((field + 1) * fractionCount + fraction) % fractionCount = fraction := by
    rw [Nat.mul_comm, Nat.mul_add_mod, Nat.mod_eq_of_lt small]
  rw [unitsOf, if_neg large, quotient, rest, Nat.add_sub_cancel]

/-- A significand with the places below it. Only without any may it lack its leading bit. -/
def Fits (shift significand : Nat) : Prop :=
  (shift = 0 ∨ fractionCount ≤ significand) ∧ significand ≤ 2 * fractionCount

theorem unitsOf_of_fits {shift significand : Nat} (fits : Fits shift significand) :
    unitsOf (shift * fractionCount + significand) = significand * Nat.pow 2 shift := by
  obtain ⟨leading, high⟩ := fits
  by_cases low : significand < fractionCount
  · have none : shift = 0 := leading.resolve_right (by omega)
    subst none
    simpa using unitsOf_of_lt low
  · obtain ⟨fraction, rfl⟩ := Nat.exists_eq_add_of_le (Nat.le_of_not_lt low)
    have split : shift * fractionCount + (fractionCount + fraction) =
        (shift + 1) * fractionCount + fraction := by ring
    rw [split]
    by_cases full : fraction = fractionCount
    · subst full
      have carried := unitsOf_normal (shift + 1) fractionCount_pos
      have next : (shift + 1) * fractionCount + fractionCount =
          (shift + 1 + 1) * fractionCount + 0 := by ring
      rw [next, carried, Nat.pow_eq, Nat.pow_eq, Nat.pow_succ]
      ring
    · exact unitsOf_normal shift (by omega)

/-- Every magnitude is a significand with places below it, and there is room for the next one. -/
theorem exists_fits (magnitude : Nat) :
    ∃ shift significand, magnitude = shift * fractionCount + significand ∧
      Fits shift significand ∧ Fits shift (significand + 1) := by
  have whole : fractionCount * (magnitude / fractionCount) + magnitude % fractionCount =
      magnitude := Nat.div_add_mod magnitude fractionCount
  have small : magnitude % fractionCount < fractionCount := Nat.mod_lt _ fractionCount_pos
  cases field : magnitude / fractionCount with
  | zero =>
    refine ⟨0, magnitude, by simp, ?_⟩
    rw [field] at whole
    simp only [Fits, true_or, true_and]
    omega
  | succ shift =>
    refine ⟨shift, fractionCount + magnitude % fractionCount, ?_, ?_⟩
    · rw [field, Nat.mul_succ] at whole
      rw [Nat.mul_comm]
      omega
    · simp only [Fits]
      omega

theorem unitsOf_lt_succ (magnitude : Nat) : unitsOf magnitude < unitsOf (magnitude + 1) := by
  obtain ⟨shift, significand, rfl, fits, next⟩ := exists_fits magnitude
  rw [unitsOf_of_fits fits, Nat.add_assoc, unitsOf_of_fits next, Nat.succ_mul]
  exact Nat.lt_add_of_pos_right (Nat.two_pow_pos shift)

theorem unitsOf_lt {lower higher : Nat} (less : lower < higher) :
    unitsOf lower < unitsOf higher := by
  induction higher, less using Nat.le_induction with
  | base => exact unitsOf_lt_succ lower
  | succ higher _ ih => exact ih.trans (unitsOf_lt_succ higher)

theorem unitsOf_le {lower higher : Nat} (le : lower ≤ higher) :
    unitsOf lower ≤ unitsOf higher := by
  rcases Nat.eq_or_lt_of_le le with rfl | less
  · exact Nat.le_refl _
  · exact (unitsOf_lt less).le

/-- The fraction, in units, lies between the midpoints around a magnitude. The midpoints themselves
count if the magnitude is even. -/
def Nearest (magnitude num den : Nat) : Prop :=
  (unitsOf (magnitude - 1) + unitsOf magnitude) * den ≤ 2 * num ∧
    2 * num ≤ (unitsOf magnitude + unitsOf (magnitude + 1)) * den ∧
    (magnitude % 2 = 1 →
      (unitsOf (magnitude - 1) + unitsOf magnitude) * den < 2 * num ∧
        2 * num < (unitsOf magnitude + unitsOf (magnitude + 1)) * den)

/-- A greater fraction does not have a smaller nearest magnitude. -/
theorem Nearest.le_of_le {lower higher num den bound other : Nat} (one : Nearest lower num den)
    (two : Nearest higher bound other) (positive : 0 < den) (otherPositive : 0 < other)
    (le : num * other ≤ bound * den) : lower ≤ higher := by
  by_contra above
  have below : higher + 1 ≤ lower := by omega
  have upper := unitsOf_le below
  have under := unitsOf_le (show higher ≤ lower - 1 by omega)
  obtain ⟨least, -, leastOdd⟩ := one
  obtain ⟨-, most, mostOdd⟩ := two
  set low := unitsOf (lower - 1) + unitsOf lower with lowEq
  set high := unitsOf higher + unitsOf (higher + 1) with highEq
  have chained : 2 * num * other ≤ 2 * bound * den := by
    rw [Nat.mul_assoc, Nat.mul_assoc]
    exact Nat.mul_le_mul_left 2 le
  have first : low * den * other ≤ 2 * num * other := Nat.mul_le_mul_right other least
  have last : 2 * bound * den ≤ high * other * den := Nat.mul_le_mul_right den most
  have ordered : high * other * den ≤ low * den * other := by
    rw [Nat.mul_right_comm low]
    exact Nat.mul_le_mul_right den (Nat.mul_le_mul_right other (Nat.add_le_add under upper))
  by_cases adjacent : lower = higher + 1
  · -- of two neighbours one is odd, and does not take the midpoint
    rcases Nat.mod_two_eq_zero_or_one lower with even | odd
    · have strict := Nat.mul_lt_mul_of_pos_right (mostOdd (by omega)).2 positive
      omega
    · have strict := Nat.mul_lt_mul_of_pos_right (leastOdd odd).1 otherPositive
      omega
  · have apart := unitsOf_lt (show higher < lower - 1 by omega)
    have strict : high * other * den < low * den * other := by
      rw [Nat.mul_right_comm low]
      refine Nat.mul_lt_mul_of_pos_right (Nat.mul_lt_mul_of_pos_right ?_ otherPositive) positive
      omega
    omega

theorem Nearest.unique {one two num den : Nat} (first : Nearest one num den)
    (second : Nearest two num den) (positive : 0 < den) : one = two :=
  Nat.le_antisymm (first.le_of_le second positive positive (Nat.le_refl _))
    (second.le_of_le first positive positive (Nat.le_refl _))

/-- A number of units that a magnitude stands for is nearest to that magnitude. -/
theorem nearest_unitsOf (magnitude den : Nat) (positive : 0 < den) :
    Nearest magnitude (unitsOf magnitude * den) den := by
  have above := Nat.mul_lt_mul_of_pos_right (unitsOf_lt_succ magnitude) positive
  have below : unitsOf (magnitude - 1) * den ≤ unitsOf magnitude * den :=
    Nat.mul_le_mul_right den (unitsOf_le (Nat.sub_le magnitude 1))
  rw [Nearest, Nat.add_mul, Nat.add_mul]
  refine ⟨by omega, by omega, fun odd => ⟨?_, by omega⟩⟩
  have strict := Nat.mul_lt_mul_of_pos_right (unitsOf_lt (show magnitude - 1 < magnitude by omega))
    positive
  omega

theorem Nearest.scale {magnitude num den : Nat} (nearest : Nearest magnitude num den)
    {factor : Nat} (positive : 0 < factor) : Nearest magnitude (num * factor) (den * factor) := by
  obtain ⟨low, high, odd⟩ := nearest
  rw [Nearest, ← Nat.mul_assoc, ← Nat.mul_assoc, ← Nat.mul_assoc]
  exact ⟨Nat.mul_le_mul_right factor low, Nat.mul_le_mul_right factor high, fun isOdd =>
    ⟨Nat.mul_lt_mul_of_pos_right (odd isOdd).1 positive,
      Nat.mul_lt_mul_of_pos_right (odd isOdd).2 positive⟩⟩

theorem Nearest.of_scale {magnitude num den factor : Nat} (positive : 0 < factor)
    (nearest : Nearest magnitude (num * factor) (den * factor)) : Nearest magnitude num den := by
  obtain ⟨low, high, odd⟩ := nearest
  rw [← Nat.mul_assoc, ← Nat.mul_assoc] at low high odd
  rw [← Nat.mul_assoc] at odd
  exact ⟨Nat.le_of_mul_le_mul_right low positive, Nat.le_of_mul_le_mul_right high positive,
    fun isOdd => ⟨Nat.lt_of_mul_lt_mul_right (odd isOdd).1,
      Nat.lt_of_mul_lt_mul_right (odd isOdd).2⟩⟩

/-- What is nearest to a fraction is nearest to all fractions of its value. -/
theorem Nearest.of_same_value {magnitude num den other otherDen : Nat}
    (nearest : Nearest magnitude num den) (positive : 0 < den) (otherPositive : 0 < otherDen)
    (same : num * otherDen = other * den) : Nearest magnitude other otherDen := by
  have scaled := nearest.scale otherPositive
  rw [same, Nat.mul_comm den] at scaled
  exact scaled.of_scale positive

theorem le_unitsOf_next {shift significand : Nat} (fits : Fits shift significand) :
    (significand + 1) * Nat.pow 2 shift ≤
      unitsOf (shift * fractionCount + significand + 1) := by
  by_cases full : significand = 2 * fractionCount
  · have carried : Fits (shift + 1) (fractionCount + 1) := by
      have positive := fractionCount_pos
      simp only [Fits]
      omega
    have next : shift * fractionCount + significand + 1 =
        (shift + 1) * fractionCount + (fractionCount + 1) := by
      rw [full]
      ring
    rw [next, unitsOf_of_fits carried, full, Nat.pow_eq, Nat.pow_eq, Nat.pow_succ,
      Nat.mul_comm (2 ^ shift) 2, ← Nat.mul_assoc]
    exact Nat.mul_le_mul_right _ (by omega)
  · have room : Fits shift (significand + 1) := by
      simp only [Fits] at fits ⊢
      omega
    rw [Nat.add_assoc, unitsOf_of_fits room]

/-- The places that are cut off leave the 53 that a significand has. -/
theorem fits_quotient (n : Nat) :
    (n.log2 - 52 = 0 ∨ fractionCount ≤ n / Nat.pow 2 (n.log2 - 52)) ∧
      n / Nat.pow 2 (n.log2 - 52) < 2 * fractionCount := by
  have positive : 0 < Nat.pow 2 (n.log2 - 52) := Nat.two_pow_pos _
  constructor
  · by_cases short : n.log2 - 52 = 0
    · exact Or.inl short
    · right
      have nonzero : n ≠ 0 := by
        rintro rfl
        simp at short
      rw [Nat.le_div_iff_mul_le positive]
      have split : fractionCount * Nat.pow 2 (n.log2 - 52) = 2 ^ n.log2 := by
        have places : 52 + (n.log2 - 52) = n.log2 := by omega
        rw [← places, Nat.pow_add, places]
        rfl
      rw [split]
      exact Nat.log2_self_le nonzero
  · rw [Nat.div_lt_iff_lt_mul positive]
    have split : 2 * fractionCount * Nat.pow 2 (n.log2 - 52) = 2 ^ (53 + (n.log2 - 52)) := by
      rw [Nat.pow_add]
      rfl
    rw [split]
    exact Nat.lt_of_lt_of_le Nat.lt_log2_self (Nat.pow_le_pow_right (by decide) (by omega))

/-- The magnitude that is found is the nearest. -/
theorem nearest_nearestMagnitude (num : Nat) {den : Nat} (positive : 0 < den) :
    Nearest (nearestMagnitude num den) (num * unitsPerOne) den := by
  rw [nearestMagnitude]
  generalize num * unitsPerOne = scaled
  obtain ⟨leading, high⟩ := fits_quotient (scaled / den)
  generalize (scaled / den).log2 - 52 = shift at leading high ⊢
  rw [Nat.div_div_eq_div_mul] at leading high
  set gap := den * Nat.pow 2 shift with gapEq
  have gapPositive : 0 < gap := Nat.mul_pos positive (Nat.two_pow_pos shift)
  have floor : scaled / gap * gap ≤ scaled := Nat.div_mul_le_self _ _
  obtain ⟨below, above⟩ := le_roundHalfEven scaled gap
  obtain ⟨upTo, downTo, strict⟩ := roundHalfEven_near scaled gapPositive
  generalize roundHalfEven scaled gap = significand at below above upTo downTo strict ⊢
  have fits : Fits shift significand := ⟨leading.imp_right (·.trans below), by omega⟩
  have value := unitsOf_of_fits fits
  have next := le_unitsOf_next fits
  have parity : (shift * fractionCount + significand) % 2 = significand % 2 := by
    have even : shift * fractionCount % 2 = 0 := by simp [Nat.mul_mod, fractionCount]
    omega
  have upper : 2 * (significand * gap) + gap ≤
      (unitsOf (shift * fractionCount + significand) +
        unitsOf (shift * fractionCount + significand + 1)) * den := by
    have double : (significand * Nat.pow 2 shift + (significand + 1) * Nat.pow 2 shift) * den =
        2 * (significand * gap) + gap := by
      rw [gapEq]
      ring
    rw [← double, value]
    exact Nat.mul_le_mul_right den (Nat.add_le_add_left next _)
  have lower : (unitsOf (shift * fractionCount + significand - 1) +
      unitsOf (shift * fractionCount + significand)) * den ≤ 2 * scaled ∧
        (significand % 2 = 1 → (unitsOf (shift * fractionCount + significand - 1) +
          unitsOf (shift * fractionCount + significand)) * den < 2 * scaled) := by
    by_cases previous : 0 < significand ∧ Fits shift (significand - 1)
    · obtain ⟨nonzero, fitsPrevious⟩ := previous
      obtain ⟨before, rfl⟩ := Nat.exists_eq_add_one.mpr nonzero
      have valueBefore := unitsOf_of_fits fitsPrevious
      rw [Nat.add_sub_cancel] at valueBefore
      have double : (before * Nat.pow 2 shift + (before + 1) * Nat.pow 2 shift) * den + gap =
          2 * ((before + 1) * gap) := by
        rw [gapEq]
        ring
      rw [← Nat.add_assoc, Nat.add_sub_cancel, Nat.add_assoc, value, valueBefore]
      refine ⟨by omega, fun odd => ?_⟩
      have less := (strict odd).1
      omega
    · -- the significand is the least of its row, and nothing was rounded up to it
      have even : significand % 2 = 0 := by
        simp only [Fits, fractionCount] at leading fits previous ⊢
        omega
      have least : significand = 0 ∨ significand = scaled / gap := by
        simp only [Fits] at fits previous
        omega
      have reached : significand * gap ≤ scaled := by
        rcases least with rfl | rfl
        · simp
        · exact floor
      have double : (significand * Nat.pow 2 shift + significand * Nat.pow 2 shift) * den =
          2 * (significand * gap) := by
        rw [gapEq]
        ring
      have under := unitsOf_le (Nat.sub_le (shift * fractionCount + significand) 1)
      rw [value] at under ⊢
      have product := Nat.mul_le_mul_right den
        (Nat.add_le_add_right under (significand * Nat.pow 2 shift))
      exact ⟨by omega, fun odd => by omega⟩
  refine ⟨lower.1, by omega, fun odd => ⟨lower.2 (by omega), ?_⟩⟩
  have less := (strict (by omega)).2
  omega

/-- Units that leave nothing behind the 53 places are kept exactly. -/
theorem unitsOf_nearestMagnitude {n scaled : Nat} (units : n * unitsPerOne = scaled)
    (exact : Nat.pow 2 (scaled.log2 - 52) ∣ scaled) :
    unitsOf (nearestMagnitude n 1) = scaled := by
  obtain ⟨leading, high⟩ := fits_quotient scaled
  rw [nearestMagnitude, units, Nat.div_one, Nat.one_mul]
  generalize scaled.log2 - 52 = shift at exact leading high ⊢
  have whole : roundHalfEven scaled (Nat.pow 2 shift) = scaled / Nat.pow 2 shift := by
    have rest : scaled % Nat.pow 2 shift = 0 := Nat.mod_eq_zero_of_dvd exact
    have positive : 0 < Nat.pow 2 shift := Nat.two_pow_pos shift
    rw [roundHalfEven, rest]
    exact if_pos positive
  rw [whole, unitsOf_of_fits ⟨leading, high.le⟩]
  exact Nat.div_mul_cancel exact

theorem nearestMagnitude_eq {magnitude num den : Nat} (positive : 0 < den)
    (nearest : Nearest magnitude (num * unitsPerOne) den) :
    nearestMagnitude num den = magnitude :=
  (nearest_nearestMagnitude num positive).unique nearest positive

/-- Rounding keeps the order of fractions. -/
theorem nearestMagnitude_mono {num den bound other : Nat} (positive : 0 < den)
    (otherPositive : 0 < other) (le : num * other ≤ bound * den) :
    nearestMagnitude num den ≤ nearestMagnitude bound other := by
  refine (nearest_nearestMagnitude num positive).le_of_le
    (nearest_nearestMagnitude bound otherPositive) positive otherPositive ?_
  rw [Nat.mul_right_comm, Nat.mul_right_comm bound]
  exact Nat.mul_le_mul_right unitsPerOne le

theorem negative_ofRatio (negative : Bool) (num den : Nat) :
    (ofRatio negative num den).negative = negative := by
  simp only [ofRatio]
  split <;> rfl

theorem magnitude_ofRatio (negative : Bool) (num den : Nat) :
    (ofRatio negative num den).magnitude = min (nearestMagnitude num den) infinityMagnitude := by
  simp only [ofRatio]
  split
  case isTrue below => exact (min_eq_left below.le).symm
  case isFalse above => exact (min_eq_right (Nat.le_of_not_lt above)).symm

theorem isFinite_iff {x : Binary64} : x.isFinite = true ↔ x.magnitude < infinityMagnitude := by
  simp [isFinite]

theorem isFinite_ofRatio_iff {negative : Bool} {num den : Nat} :
    (ofRatio negative num den).isFinite = true ↔ nearestMagnitude num den < infinityMagnitude := by
  rw [isFinite_iff, magnitude_ofRatio, min_lt_iff]
  exact or_iff_left (Nat.lt_irrefl _)

/-- The double of a fraction is the one whose magnitude is nearest, if that is finite. -/
theorem ofRatio_eq {x : Binary64} (finite : x.isFinite = true) {num den : Nat} (positive : 0 < den)
    (nearest : Nearest x.magnitude (num * unitsPerOne) den) :
    ofRatio x.negative num den = x := by
  simp only [ofRatio, nearestMagnitude_eq positive nearest, dif_pos (isFinite_iff.mp finite)]

/-- A number of 53 bits with any places below them leaves nothing behind these. -/
theorem two_pow_dvd {n unit : Nat} (small : n < 2 ^ 53) (power : Nat.pow 2 unit.log2 = unit) :
    Nat.pow 2 ((n * unit).log2 - 52) ∣ n * unit := by
  generalize unit.log2 = places at power
  subst power
  have short : (n * Nat.pow 2 places).log2 - 52 ≤ places := by
    by_cases zero : n * Nat.pow 2 places = 0
    · rw [zero]
      simp
    · have bound : n * Nat.pow 2 places < 2 ^ (53 + places) := by
        rw [Nat.pow_add]
        exact Nat.mul_lt_mul_of_pos_right small (Nat.two_pow_pos places)
      have log := (Nat.log2_lt zero).mpr bound
      omega
  exact Dvd.dvd.mul_left (Nat.pow_dvd_pow 2 short) n

theorem isFinite_ofNat {n : Nat} (small : n < UInt64.size) : (ofNat n).isFinite = true := by
  have top : nearestMagnitude UInt64.size 1 < infinityMagnitude := by decide +kernel
  have below := nearestMagnitude_mono Nat.one_pos Nat.one_pos (Nat.mul_le_mul_right 1 small.le)
  exact isFinite_ofRatio_iff.mpr (below.trans_lt top)

theorem magnitude_ofNat_le {m n : Nat} (le : m ≤ n) :
    (ofNat m).magnitude ≤ (ofNat n).magnitude := by
  have order := nearestMagnitude_mono Nat.one_pos Nat.one_pos (Nat.mul_le_mul_right 1 le)
  rw [ofNat, ofNat, magnitude_ofRatio, magnitude_ofRatio]
  exact min_le_min_right _ order

theorem units_ofNat_le {m n : Nat} (le : m ≤ n) : (ofNat m).units ≤ (ofNat n).units :=
  unitsOf_le (magnitude_ofNat_le le)

theorem units_ofNat {n : Nat} (small : n < 2 ^ 53) : (ofNat n).units = n * unitsPerOne := by
  have finite := isFinite_ofNat (show n < UInt64.size from small.trans (by decide))
  rw [units, ofNat, magnitude_ofRatio, min_eq_left (isFinite_ofRatio_iff.mp finite).le]
  exact unitsOf_nearestMagnitude rfl (two_pow_dvd small (by decide +kernel))

/-- Fractions of one value have the same double. -/
theorem ofRatio_scale (negative : Bool) (num : Nat) {den factor : Nat} (positive : 0 < den)
    (nonzero : 0 < factor) :
    ofRatio negative (num * factor) (den * factor) = ofRatio negative num den := by
  have same : nearestMagnitude (num * factor) (den * factor) = nearestMagnitude num den := by
    refine nearestMagnitude_eq (Nat.mul_pos positive nonzero) ?_
    rw [Nat.mul_right_comm]
    exact (nearest_nearestMagnitude num positive).scale nonzero
  simp only [ofRatio, same]

end Binary64

end GameShelf
