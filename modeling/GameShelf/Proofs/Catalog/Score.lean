import GameShelf.Catalog.Score
import GameShelf.Proofs.Json.Numeral

namespace GameShelf

namespace Binary64

/-- The double without its sign. -/
def unsigned (x : Binary64) : Binary64 :=
  { x with negative := false }

theorem units_powerOfTen {e : Nat} (small : e ≤ 22) :
    (powerOfTen e).units = 10 ^ e * unitsPerOne := by
  have every : ∀ e < 23, (powerOfTen e).units = Nat.pow 10 e * unitsPerOne := by decide +kernel
  exact every e (by omega)

theorem units_powerOfTen_le {e most : Nat} (le : e ≤ most) :
    (powerOfTen e).units ≤ (powerOfTen most).units :=
  units_ofNat_le (Nat.pow_le_pow_right (by decide) le)

theorem unitsPerOne_le_powerOfTen (e : Nat) : unitsPerOne ≤ (powerOfTen e).units := by
  have start : (powerOfTen 0).units = unitsPerOne := by decide +kernel
  exact start.ge.trans (units_powerOfTen_le (Nat.zero_le e))

/-- A product of integers is rounded once. -/
theorem scaleUp_of_units {x y : Binary64} {m n : Nat} (one : x.units = m * unitsPerOne)
    (two : y.units = n * unitsPerOne) : x.scaleUp y = ofRatio false (m * n) 1 := by
  have scaled := ofRatio_scale false (m * n) Nat.one_pos
    (Nat.mul_pos unitsPerOne_pos unitsPerOne_pos)
  rw [Nat.one_mul] at scaled
  rw [scaleUp, one, two, Nat.mul_mul_mul_comm, scaled]

/-- A quotient of integers is rounded once. -/
theorem scaleDown_of_units {x y : Binary64} {m n : Nat} (one : x.units = m * unitsPerOne)
    (two : y.units = n * unitsPerOne) (positive : 0 < n) :
    x.scaleDown y = ofRatio false m n := by
  rw [scaleDown, one, two, ofRatio_scale false m positive unitsPerOne_pos]

theorem negative_scaleDown (x y : Binary64) : (x.scaleDown y).negative = false :=
  negative_ofRatio false _ _

theorem negative_scaleUp (x y : Binary64) : (x.scaleUp y).negative = false :=
  negative_ofRatio false _ _

/-- Dividing by what is at least one keeps a double finite. -/
theorem isFinite_scaleDown {x y : Binary64} (finite : x.isFinite = true)
    (large : unitsPerOne ≤ y.units) : (x.scaleDown y).isFinite = true := by
  rw [isFinite_iff] at finite
  refine isFinite_ofRatio_iff.mpr (Nat.lt_of_le_of_lt ?_ finite)
  have positive : 0 < y.units := Nat.lt_of_lt_of_le unitsPerOne_pos large
  refine (nearest_nearestMagnitude x.units positive).le_of_le
    (nearest_unitsOf x.magnitude 1 Nat.one_pos) positive Nat.one_pos ?_
  rw [Nat.mul_one, Nat.mul_one]
  exact Nat.mul_le_mul_left x.units large

/-- Smaller numbers have a product that is finite if that of the larger ones is. -/
theorem isFinite_scaleUp {x y most factor : Binary64} (le : x.units ≤ most.units)
    (factorLe : y.units ≤ factor.units) (finite : (most.scaleUp factor).isFinite = true) :
    (x.scaleUp y).isFinite = true := by
  have positive : 0 < unitsPerOne * unitsPerOne := Nat.mul_pos unitsPerOne_pos unitsPerOne_pos
  rw [scaleUp, isFinite_ofRatio_iff] at finite ⊢
  refine Nat.lt_of_le_of_lt (nearestMagnitude_mono positive positive ?_) finite
  exact Nat.mul_le_mul_right _ (Nat.mul_le_mul le factorLe)

end Binary64

namespace Score

section Gathering

theorem le_ofDigitChars (significand : Nat) (digits : List Char) :
    significand ≤ Nat.ofDigitChars 10 digits significand := by
  rw [Nat.ofDigitChars_eq_ofDigitChars_zero]
  have positive : 0 < 10 ^ digits.length := Nat.pow_pos (by decide)
  exact Nat.le_add_right_of_le (Nat.le_mul_of_pos_left significand positive)

theorem extend?_of_lt {significand : Nat} {digit : Char} {digits : List Char}
    (small : Nat.ofDigitChars 10 (digit :: digits) significand < UInt64.size) :
    extend? significand digit = some (10 * significand + (digit.toNat - '0'.toNat)) := by
  rw [Nat.ofDigitChars_cons] at small
  have next := le_ofDigitChars (10 * significand + (digit.toNat - '0'.toNat)) digits
  exact if_pos (next.trans_lt small)

theorem gatherWhole_cons (significand : Nat) (digit : Char) (digits : List Char) :
    gatherWhole significand (digit :: digits) =
      match extend? significand digit with
      | some next => gatherWhole next digits
      | none => (significand, digits.length + 1) := by
  rfl

theorem gatherFraction_cons (significand : Nat) (digit : Char) (digits : List Char) :
    gatherFraction significand (digit :: digits) =
      match extend? significand digit with
      | some next => ((gatherFraction next digits).1, (gatherFraction next digits).2 + 1)
      | none => (significand, 0) := by
  rfl

theorem gatherWhole_of_lt {digits : List Char} {significand : Nat}
    (small : Nat.ofDigitChars 10 digits significand < UInt64.size) :
    gatherWhole significand digits = (Nat.ofDigitChars 10 digits significand, 0) := by
  induction digits generalizing significand with
  | nil => rfl
  | cons digit digits ih =>
    rw [gatherWhole_cons, extend?_of_lt small]
    rw [Nat.ofDigitChars_cons] at small ⊢
    exact ih small

theorem gatherFraction_of_lt {digits : List Char} {significand : Nat}
    (small : Nat.ofDigitChars 10 digits significand < UInt64.size) :
    gatherFraction significand digits =
      (Nat.ofDigitChars 10 digits significand, digits.length) := by
  induction digits generalizing significand with
  | nil => rfl
  | cons digit digits ih =>
    rw [gatherFraction_cons, extend?_of_lt small]
    rw [Nat.ofDigitChars_cons] at small ⊢
    simp only [ih small, List.length_cons]

theorem extend?_lt {significand next : Nat} {digit : Char}
    (extended : extend? significand digit = some next) : next < UInt64.size := by
  simp only [extend?, Option.ite_none_right_eq_some, Option.some.injEq] at extended
  omega

theorem gatherWhole_lt {significand : Nat} (small : significand < UInt64.size)
    (digits : List Char) : (gatherWhole significand digits).1 < UInt64.size := by
  induction digits generalizing significand with
  | nil => exact small
  | cons digit digits ih =>
    rw [gatherWhole_cons]
    cases extended : extend? significand digit with
    | none => exact small
    | some next => exact ih (extend?_lt extended)

theorem gatherFraction_lt {significand : Nat} (small : significand < UInt64.size)
    (digits : List Char) : (gatherFraction significand digits).1 < UInt64.size := by
  induction digits generalizing significand with
  | nil => exact small
  | cons digit digits ih =>
    rw [gatherFraction_cons]
    cases extended : extend? significand digit with
    | none => exact small
    | some next => exact ih (extend?_lt extended)

end Gathering

/-- The double of a significand, scaled by a power of ten. -/
def scale? (significand : Nat) (exponent : Int) : Option Binary64 :=
  if 0 ≤ exponent then grow? (.ofNat significand) exponent.toNat
  else some (shrink (.ofNat significand) (-exponent).toNat)

/-- A numeral whose digits fit into a word is taken at its value. -/
theorem ofNumeral?_of_lt {n : Numeral} (small : n.toDecimal.coefficient < UInt64.size) :
    ofNumeral? n = (scale? n.toDecimal.coefficient n.toDecimal.exponent).map
      fun x => if n.negative then x.negate else x := by
  have split : n.toDecimal.coefficient =
      Nat.ofDigitChars 10 n.fraction (Nat.ofDigitChars 10 n.whole 0) :=
    Nat.ofDigitChars_append 0
  rw [split] at small ⊢
  have whole := gatherWhole_of_lt (Nat.lt_of_le_of_lt (le_ofDigitChars _ n.fraction) small)
  have fraction := gatherFraction_of_lt small
  have exponent : n.exponent.getD 0 + ((0 : Nat) : Int) - n.fraction.length =
      n.toDecimal.exponent := by
    simp only [Numeral.toDecimal]
    omega
  simp only [ofNumeral?, whole, fraction, exponent, scale?]

section Range

theorem of_grow?_eq_some {x y : Binary64} {e : Nat} (grown : grow? x e = some y) :
    y = x ∨ y = x.scaleUp (.powerOfTen e) ∧ y.isFinite = true := by
  simp only [grow?] at grown
  split at grown
  · split at grown
    · exact Or.inl (Option.some.inj grown).symm
    · exact nomatch grown
  · split at grown
    case isTrue finite =>
      have same := Option.some.inj grown
      exact Or.inr ⟨same.symm, by rw [← same]; exact finite⟩
    case isFalse => exact nomatch grown

theorem isFinite_shrink {x : Binary64} (finite : x.isFinite = true) (e : Nat) :
    (shrink x e).isFinite = true := by
  induction x, e using shrink.induct with
  | case1 x e small =>
    rw [shrink, if_pos small]
    exact Binary64.isFinite_scaleDown finite (Binary64.unitsPerOne_le_powerOfTen _)
  | case2 e large =>
    rw [shrink, if_neg large, if_pos rfl]
    exact finite
  | case3 x e large nonzero ih =>
    rw [shrink, if_neg large, if_neg nonzero]
    exact ih (Binary64.isFinite_scaleDown finite (Binary64.unitsPerOne_le_powerOfTen _))

theorem negative_shrink {x : Binary64} (positive : x.negative = false) (e : Nat) :
    (shrink x e).negative = false := by
  induction x, e using shrink.induct with
  | case1 x e small =>
    rw [shrink, if_pos small]
    exact Binary64.negative_scaleDown x _
  | case2 e large =>
    rw [shrink, if_neg large, if_pos rfl]
    rfl
  | case3 x e large nonzero ih =>
    rw [shrink, if_neg large, if_neg nonzero]
    exact ih (Binary64.negative_scaleDown x _)

theorem of_scale?_eq_some {significand : Nat} (small : significand < UInt64.size) {exponent : Int}
    {x : Binary64} (scaled : scale? significand exponent = some x) :
    x.isFinite = true ∧ x.negative = false := by
  have finite := Binary64.isFinite_ofNat small
  have positive : (Binary64.ofNat significand).negative = false :=
    Binary64.negative_ofRatio false significand 1
  rw [scale?] at scaled
  split at scaled
  · rcases of_grow?_eq_some scaled with same | ⟨same, grown⟩
    · rw [same]
      exact ⟨finite, positive⟩
    · refine ⟨grown, ?_⟩
      rw [same]
      exact Binary64.negative_scaleUp _ _
  · rw [← Option.some.inj scaled]
    exact ⟨isFinite_shrink finite _, negative_shrink positive _⟩

/-- A score that is read is finite. -/
theorem isFinite_of_ofNumeral? {n : Numeral} {x : Binary64} (read : ofNumeral? n = some x) :
    x.isFinite = true := by
  have zero : 0 < UInt64.size := by decide
  have small := gatherFraction_lt (gatherWhole_lt zero n.whole) n.fraction
  obtain ⟨y, scaled, rfl⟩ := Option.map_eq_some_iff.mp read
  obtain ⟨finite, -⟩ := of_scale?_eq_some small scaled
  cases n.negative with
  | true => exact finite
  | false => exact finite

end Range

section Success

/-- The largest integer that may be written for a double other than the greatest. -/
def greatestWritten : Nat :=
  (Binary64.unitsOf (Binary64.infinityMagnitude - 2) +
    Binary64.unitsOf (Binary64.infinityMagnitude - 1)) / (2 * Binary64.unitsPerOne)

theorem le_greatestWritten {magnitude n : Nat}
    (below : magnitude + 1 < Binary64.infinityMagnitude)
    (nearest : Binary64.Nearest magnitude (n * Binary64.unitsPerOne) 1) : n ≤ greatestWritten := by
  obtain ⟨-, high, -⟩ := nearest
  have first := Binary64.unitsOf_le (show magnitude ≤ Binary64.infinityMagnitude - 2 by omega)
  have second := Binary64.unitsOf_le (show magnitude + 1 ≤ Binary64.infinityMagnitude - 1 by omega)
  rw [greatestWritten, Nat.le_div_iff_mul_le (Nat.mul_pos Nat.two_pos Binary64.unitsPerOne_pos),
    Nat.mul_left_comm]
  rw [Nat.mul_one] at high
  exact high.trans (Nat.add_le_add first second)

theorem greatestWritten_lt : greatestWritten < 10 ^ 309 := by
  decide +kernel

theorem isSome_grow? {n e : Nat} (nonzero : 0 < n) (small : n < UInt64.size)
    (bound : n * 10 ^ e ≤ greatestWritten) : (grow? (.ofNat n) e).isSome = true := by
  have power : 10 ^ e ≤ greatestWritten := (Nat.le_mul_of_pos_left _ nonzero).trans bound
  have within (places : Nat) (large : greatestWritten < 10 ^ places) : e < places :=
    (Nat.pow_lt_pow_iff_right (by decide)).mp (power.trans_lt large)
  have places : e < 309 := within 309 greatestWritten_lt
  have finite : ((Binary64.ofNat n).scaleUp (.powerOfTen e)).isFinite = true := by
    -- up to this power even the greatest word stays finite, so the digits count only above it
    by_cases low : e ≤ 288
    · have top : ((Binary64.ofNat UInt64.size).scaleUp (.powerOfTen 288)).isFinite = true := by
        decide +kernel
      exact Binary64.isFinite_scaleUp (Binary64.units_ofNat_le small.le)
        (Binary64.units_powerOfTen_le low) top
    · obtain ⟨k, rfl⟩ := Nat.exists_eq_add_of_le (show 289 ≤ e by omega)
      have top : ∀ k < 20, ((Binary64.ofNat (greatestWritten / Nat.pow 10 (289 + k))).scaleUp
          (.powerOfTen (289 + k))).isFinite = true := by
        decide +kernel
      have most := (Nat.le_div_iff_mul_le (Nat.pow_pos (by decide))).mpr bound
      exact Binary64.isFinite_scaleUp (Binary64.units_ofNat_le most) le_rfl (top k (by omega))
  have inRange : ¬ 308 < e := by omega
  simp only [grow?, if_neg inRange, if_pos finite, Option.isSome_some]

/-- The greatest double, or the least. -/
def greatest (negative : Bool) : Binary64 :=
  ⟨negative, Binary64.infinityMagnitude - 1, by decide⟩

theorem isSome_scale?_greatest : ∀ negative,
    (scale? (Numeral.ofFinite (greatest negative)).toDecimal.coefficient
      (Numeral.ofFinite (greatest negative)).toDecimal.exponent).isSome = true := by
  decide +kernel

/-- An integer near the midpoint above the greatest double could overflow when it is rounded twice,
so what is written for that double is looked at by itself. -/
theorem isSome_scale?_ofFinite {x : Binary64} (finite : x.isFinite = true) :
    (scale? (Numeral.ofFinite x).toDecimal.coefficient
      (Numeral.ofFinite x).toDecimal.exponent).isSome = true := by
  by_cases last : x.magnitude + 1 < Binary64.infinityMagnitude
  · obtain ⟨-, small, nearest⟩ := Numeral.ofFinite_spec x
    have positive : 0 ≤ (Numeral.ofFinite x).toDecimal.exponent →
        0 < (Numeral.ofFinite x).toDecimal.coefficient := by
      intro up
      rcases Nat.eq_zero_or_pos x.magnitude with zero | nonzero
      · rw [Numeral.ofFinite_zero zero] at up
        exact absurd up (by simp [Numeral.toDecimal])
      · obtain ⟨zeros, value, -⟩ := Numeral.toDecimal_ofFinite nonzero
        obtain ⟨-, coefficient, -, -⟩ := Binary64.shortest_spec nonzero
        rw [value]
        exact Nat.mul_pos coefficient (Nat.pow_pos (by decide))
    generalize (Numeral.ofFinite x).toDecimal.coefficient = n at small positive nearest ⊢
    generalize (Numeral.ofFinite x).toDecimal.exponent = e at positive nearest ⊢
    rw [scale?]
    split
    case isTrue up =>
      have none : (-e).toNat = 0 := by omega
      rw [Binary64.tenTo, none] at nearest
      exact isSome_grow? (positive up) small (le_greatestWritten last nearest)
    case isFalse => rfl
  · have top : x = greatest x.negative := by
      obtain ⟨negative, magnitude, bound⟩ := x
      have below := Binary64.isFinite_iff.mp finite
      have same : magnitude = Binary64.infinityMagnitude - 1 := by
        simp only at below last
        omega
      subst same
      rfl
    rw [top]
    exact isSome_scale?_greatest x.negative

end Success

/-- The digits that a score is written with, as a double and scaled by their power of ten, are the
score again. -/
def Survives (x : Binary64) : Prop :=
  scale? (Numeral.ofFinite x).toDecimal.coefficient (Numeral.ofFinite x).toDecimal.exponent =
    some x.unsigned

instance (x : Binary64) : Decidable (Survives x) :=
  inferInstanceAs (Decidable (_ = _))

theorem ofNumeral?_ofFinite (x : Binary64) :
    ofNumeral? (Numeral.ofFinite x) =
      (scale? (Numeral.ofFinite x).toDecimal.coefficient
        (Numeral.ofFinite x).toDecimal.exponent).map
          fun y => if x.negative then y.negate else y := by
  obtain ⟨sign, small, -⟩ := Numeral.ofFinite_spec x
  rw [ofNumeral?_of_lt small, sign]

/-- Every finite score can be read again. -/
theorem exists_ofNumeral?_ofFinite {x : Binary64} (finite : x.isFinite = true) :
    ∃ y, ofNumeral? (Numeral.ofFinite x) = some y := by
  obtain ⟨y, scaled⟩ := Option.isSome_iff_exists.mp (isSome_scale?_ofFinite finite)
  rw [ofNumeral?_ofFinite, scaled]
  exact ⟨_, rfl⟩

/-- A score is read again from its text exactly if it survives. -/
theorem ofNumeral?_ofFinite_iff {x : Binary64} :
    ofNumeral? (Numeral.ofFinite x) = some x ↔ Survives x := by
  obtain ⟨-, small, -⟩ := Numeral.ofFinite_spec x
  rw [ofNumeral?_ofFinite, Survives, Option.map_eq_some_iff]
  obtain ⟨negative, magnitude, bound⟩ := x
  constructor
  · rintro ⟨y, scaled, same⟩
    have positive := (of_scale?_eq_some small scaled).2
    obtain ⟨sign, size, sizeBound⟩ := y
    subst positive
    rw [scaled]
    cases negative with
    | true =>
      cases same
      rfl
    | false =>
      cases same
      rfl
  · intro survives
    refine ⟨_, survives, ?_⟩
    cases negative with
    | true => rfl
    | false => rfl

/-- With few digits and a small power of ten both are doubles, and only their product or quotient
is rounded. -/
theorem survives_of_few {x : Binary64} (finite : x.isFinite = true)
    (digits : (Numeral.ofFinite x).toDecimal.coefficient < 2 ^ 53)
    (places : (Numeral.ofFinite x).toDecimal.exponent.natAbs ≤ 22) : Survives x := by
  obtain ⟨-, -, nearest⟩ := Numeral.ofFinite_spec x
  have unsignedFinite : x.unsigned.isFinite = true := finite
  rw [Survives]
  generalize (Numeral.ofFinite x).toDecimal.coefficient = n at digits nearest ⊢
  generalize (Numeral.ofFinite x).toDecimal.exponent = e at places nearest ⊢
  have whole := Binary64.units_ofNat digits
  rw [scale?]
  by_cases up : 0 ≤ e
  · have power := Binary64.units_powerOfTen (show e.toNat ≤ 22 by omega)
    have none : (-e).toNat = 0 := by omega
    rw [Binary64.tenTo, none] at nearest
    have product : (Binary64.ofNat n).scaleUp (.powerOfTen e.toNat) = x.unsigned := by
      rw [Binary64.scaleUp_of_units whole power]
      exact Binary64.ofRatio_eq unsignedFinite Nat.one_pos nearest
    have small : ¬ 308 < e.toNat := by omega
    rw [if_pos up, grow?, if_neg small, product, if_pos unsignedFinite]
  · have power := Binary64.units_powerOfTen (show (-e).toNat ≤ 22 by omega)
    have none : e.toNat = 0 := by omega
    have positive : 0 < 10 ^ (-e).toNat := Nat.pow_pos (by decide)
    rw [Binary64.tenTo, none, Nat.pow_eq, Nat.pow_zero, Nat.mul_one] at nearest
    have quotient : (Binary64.ofNat n).scaleDown (.powerOfTen (-e).toNat) = x.unsigned := by
      rw [Binary64.scaleDown_of_units whole power positive]
      exact Binary64.ofRatio_eq unsignedFinite positive nearest
    have small : (-e).toNat ≤ 308 := by omega
    rw [if_neg up, shrink, if_pos small, quotient]

end Score

end GameShelf
