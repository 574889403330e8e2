import GameShelf.Binary64.Shortest
import GameShelf.Proofs.Binary64.Rounding

namespace GameShelf.Binary64

theorem tenTo_pos (e : Int) : 0 < (tenTo e).1 ∧ 0 < (tenTo e).2 :=
  ⟨Nat.pow_pos (by decide), Nat.pow_pos (by decide)⟩

/-- A step to the next power of ten, across the two parts of the fraction. -/
theorem tenTo_succ (e : Int) :
    (tenTo (e + 1)).1 * (tenTo e).2 = 10 * ((tenTo e).1 * (tenTo (e + 1)).2) := by
  simp only [tenTo, Nat.pow_eq]
  by_cases up : 0 ≤ e
  · have above : (e + 1).toNat = e.toNat + 1 := by omega
    have none : (-e).toNat = 0 := by omega
    have still : (-(e + 1)).toNat = 0 := by omega
    rw [above, none, still]
    ring
  · have none : e.toNat = 0 := by omega
    have still : (e + 1).toNat = 0 := by omega
    have below : (-e).toNat = (-(e + 1)).toNat + 1 := by omega
    rw [none, still, below]
    ring

/-- The powers of ten from `10 ^ -last` on, as fractions of `10 ^ last`. -/
theorem tenTo_sub (k last : Nat) :
    (tenTo ((k : Int) - last)).1 * 10 ^ last = 10 ^ k * (tenTo ((k : Int) - last)).2 := by
  simp only [tenTo, Nat.pow_eq]
  by_cases up : last ≤ k
  · have above : ((k : Int) - last).toNat = k - last := by omega
    have none : (-((k : Int) - last)).toNat = 0 := by omega
    rw [above, none, ← Nat.pow_add, Nat.sub_add_cancel up, Nat.pow_zero, Nat.mul_one]
  · have none : ((k : Int) - last).toNat = 0 := by omega
    have below : (-((k : Int) - last)).toNat = last - k := by omega
    have whole : k + (last - k) = 0 + last := by omega
    rw [none, below, ← Nat.pow_add, ← Nat.pow_add, whole]

/-- Zeros behind the digits make up for a lower power of ten. -/
theorem tenTo_zeros (e : Int) (zeros : Nat) :
    10 ^ zeros * (tenTo (e - zeros)).1 * (tenTo e).2 = (tenTo e).1 * (tenTo (e - zeros)).2 := by
  induction zeros with
  | zero => simp
  | succ zeros ih =>
    have step := tenTo_succ (e - (zeros + 1 : Nat))
    have next : e - (zeros + 1 : Nat) + 1 = e - zeros := by omega
    rw [next] at step
    refine Nat.eq_of_mul_eq_mul_right (tenTo_pos (e - zeros)).2 ?_
    calc 10 ^ (zeros + 1) * (tenTo (e - (zeros + 1 : Nat))).1 * (tenTo e).2 * (tenTo (e - zeros)).2
        = 10 ^ zeros * (tenTo e).2 *
            (10 * ((tenTo (e - (zeros + 1 : Nat))).1 * (tenTo (e - zeros)).2)) := by ring
      _ = 10 ^ zeros * (tenTo (e - zeros)).1 * (tenTo e).2 * (tenTo (e - (zeros + 1 : Nat))).2 := by
          rw [← step]
          ring
      _ = (tenTo e).1 * (tenTo (e - (zeros + 1 : Nat))).2 * (tenTo (e - zeros)).2 := by
          rw [ih]
          ring

theorem roundsTo_iff {magnitude n : Nat} {e : Int} :
    roundsTo magnitude n e = true ↔
      Nearest magnitude (n * (tenTo e).1 * unitsPerOne) (tenTo e).2 := by
  have point (one : Nat) : n * (tenTo e).1 * (2 * one) = 2 * (n * (tenTo e).1 * one) := by ring
  simp only [roundsTo, Nearest]
  rw [point]
  rcases Nat.mod_two_eq_zero_or_one magnitude with even | odd
  · simp [even]
  · simp [odd]
    omega

theorem unitsPerOne_pos : 0 < unitsPerOne := by
  decide +kernel

theorem stepsBelow_le (magnitude : Nat) (e : Int) :
    stepsBelow magnitude e * (tenTo e).1 * unitsPerOne ≤ unitsOf magnitude * (tenTo e).2 := by
  rw [stepsBelow]
  generalize unitsPerOne = one
  rw [Nat.mul_assoc, Nat.mul_comm (tenTo e).1]
  exact Nat.div_mul_le_self _ _

theorem lt_stepsBelow (magnitude : Nat) (e : Int) :
    unitsOf magnitude * (tenTo e).2 <
      (stepsBelow magnitude e + 1) * (tenTo e).1 * unitsPerOne := by
  have positive := Nat.mul_pos unitsPerOne_pos (tenTo_pos e).1
  rw [stepsBelow]
  generalize unitsPerOne = one at positive ⊢
  have below := Nat.lt_mul_div_succ (unitsOf magnitude * (tenTo e).2) positive
  calc _ < _ := below
    _ = _ := by ring

theorem nearerPoint_cases (magnitude n : Nat) (e : Int) :
    nearerPoint magnitude n e = n ∨ nearerPoint magnitude n e = n + 1 := by
  simp only [nearerPoint]
  generalize unitsPerOne = one
  split
  · exact Or.inl rfl
  · split
    · exact Or.inr rfl
    · omega

theorem of_gridPoint?_eq_some {magnitude n : Nat} {e : Int}
    (found : gridPoint? magnitude e = some n) :
    0 < n ∧ n ≤ stepsBelow magnitude e + 1 ∧ roundsTo magnitude n e = true := by
  simp only [gridPoint?] at found
  generalize stepsBelow magnitude e = below at found ⊢
  generalize lowEq : (decide (0 < below) && roundsTo magnitude below e) = low at found
  generalize highEq : roundsTo magnitude (below + 1) e = high at found
  cases low with
  | true =>
    simp only [Bool.and_eq_true, decide_eq_true_eq] at lowEq
    cases high with
    | true =>
      rw [← Option.some.inj found]
      rcases nearerPoint_cases magnitude below e with same | same
      · rw [same]
        exact ⟨lowEq.1, Nat.le_succ _, lowEq.2⟩
      · rw [same]
        exact ⟨Nat.succ_pos _, Nat.le_refl _, highEq⟩
    | false =>
      cases found
      exact ⟨lowEq.1, Nat.le_succ _, lowEq.2⟩
  | false =>
    cases high with
    | true =>
      cases found
      exact ⟨Nat.succ_pos _, Nat.le_refl _, highEq⟩
    | false => cases found

theorem of_gridPoint?_eq_none {magnitude : Nat} {e : Int}
    (missed : gridPoint? magnitude e = none) :
    (stepsBelow magnitude e = 0 ∨ roundsTo magnitude (stepsBelow magnitude e) e ≠ true) ∧
      roundsTo magnitude (stepsBelow magnitude e + 1) e ≠ true := by
  simp only [gridPoint?] at missed
  generalize stepsBelow magnitude e = below at missed ⊢
  generalize lowEq : (decide (0 < below) && roundsTo magnitude below e) = low at missed
  generalize roundsTo magnitude (below + 1) e = high at missed ⊢
  cases low with
  | true => cases high <;> cases missed
  | false =>
    cases high with
    | true => cases missed
    | false =>
      refine ⟨?_, Bool.false_ne_true⟩
      rcases Nat.eq_zero_or_pos below with none | positive
      · exact Or.inl none
      · right
        intro holds
        simp [positive, holds] at lowEq

/-- The steps of a grid are as wide as half the distance between the neighbours of a double. -/
def Wide (magnitude : Nat) (e : Int) : Prop :=
  unitsOf (magnitude + 1) * (tenTo e).2 ≤
    unitsOf (magnitude - 1) * (tenTo e).2 + 2 * ((tenTo e).1 * unitsPerOne)

/-- A grid that is not wide has a point between the midpoints. -/
theorem wide_of_gridPoint?_eq_none {magnitude : Nat} {e : Int}
    (missed : gridPoint? magnitude e = none) : Wide magnitude e := by
  obtain ⟨lower, upper⟩ := of_gridPoint?_eq_none missed
  have below := stepsBelow_le magnitude e
  have above := lt_stepsBelow magnitude e
  have next := Nat.mul_lt_mul_of_pos_right (unitsOf_lt_succ magnitude) (tenTo_pos e).2
  have previous := Nat.mul_le_mul_right (tenTo e).2 (unitsOf_le (Nat.sub_le magnitude 1))
  rw [Ne, roundsTo_iff, Nearest] at upper lower
  rw [Wide]
  generalize stepsBelow magnitude e = n at below above lower upper
  generalize unitsPerOne = one at *
  have step : (n + 1) * (tenTo e).1 * one = n * (tenTo e).1 * one + (tenTo e).1 * one := by ring
  rw [step, Nat.add_mul, Nat.add_mul] at upper
  rw [step] at above
  rw [Nat.add_mul, Nat.add_mul] at lower
  have start : n = 0 → n * (tenTo e).1 * one = 0 := by
    rintro rfl
    simp
  generalize n * (tenTo e).1 * one = point at *
  generalize (tenTo e).1 * one = width at *
  omega

theorem tenTo_finest : (tenTo (-324)).1 = 1 ∧ unitsPerOne < (tenTo (-324)).2 := by
  decide +kernel

theorem not_wide_finest {magnitude : Nat} (positive : 0 < magnitude) :
    ¬ Wide magnitude (-324) := by
  have first := unitsOf_lt (show magnitude - 1 < magnitude by omega)
  have second := unitsOf_lt_succ magnitude
  have spaced : (unitsOf (magnitude - 1) + 2) * (tenTo (-324)).2 ≤
      unitsOf (magnitude + 1) * (tenTo (-324)).2 := Nat.mul_le_mul_right _ (by omega)
  obtain ⟨unit, fine⟩ := tenTo_finest
  rw [Wide, unit, Nat.one_mul]
  rw [Nat.add_mul] at spaced
  generalize unitsPerOne = one at *
  generalize (tenTo (-324)).2 = den at *
  omega

theorem coarsest_spec {magnitude : Nat} (positive : 0 < magnitude) {k n : Nat} {e : Int}
    (wide : Wide magnitude ((k : Int) - 324 + 1)) (found : coarsest magnitude k = (n, e)) :
    0 < n ∧ n ≤ stepsBelow magnitude e + 1 ∧ roundsTo magnitude n e = true ∧
      Wide magnitude (e + 1) := by
  induction k with
  | zero =>
    rw [coarsest] at found
    cases point : gridPoint? magnitude (-324) with
    | none => exact absurd (wide_of_gridPoint?_eq_none point) (not_wide_finest positive)
    | some best =>
      rw [point, Option.getD_some, Prod.mk.injEq] at found
      obtain ⟨rfl, rfl⟩ := found
      obtain ⟨nonzero, near, rounds⟩ := of_gridPoint?_eq_some point
      exact ⟨nonzero, near, rounds, wide⟩
  | succ k ih =>
    rw [coarsest] at found
    cases point : gridPoint? magnitude ((k + 1 : Nat) - 324) with
    | none =>
      rw [point] at found
      refine ih ?_ found
      have next := wide_of_gridPoint?_eq_none point
      have same : ((k + 1 : Nat) : Int) - 324 = (k : Int) - 324 + 1 := by omega
      rwa [same] at next
    | some best =>
      rw [point] at found
      simp only [Prod.mk.injEq] at found
      obtain ⟨rfl, rfl⟩ := found
      obtain ⟨nonzero, near, rounds⟩ := of_gridPoint?_eq_some point
      exact ⟨nonzero, near, rounds, wide⟩

/-- A double is at most `2 ^ 53` times as large as the distance between its neighbours. -/
theorem unitsOf_le_gap (magnitude : Nat) :
    unitsOf magnitude + 2 ^ 53 * unitsOf (magnitude - 1) ≤ 2 ^ 53 * unitsOf (magnitude + 1) := by
  have under := unitsOf_le (Nat.sub_le magnitude 1)
  obtain ⟨shift, significand, rfl, fits, next⟩ := exists_fits magnitude
  have value := unitsOf_of_fits fits
  have above : unitsOf (shift * fractionCount + significand + 1) =
      significand * Nat.pow 2 shift + Nat.pow 2 shift := by
    rw [Nat.add_assoc, unitsOf_of_fits next, Nat.succ_mul]
  have small : significand * Nat.pow 2 shift ≤ 2 ^ 53 * Nat.pow 2 shift := by
    refine Nat.mul_le_mul_right _ ?_
    have bound := next.2
    simp only [fractionCount] at bound
    omega
  rw [above, value]
  rw [value] at under
  generalize Nat.pow 2 shift = gap at *
  generalize significand * gap = units at *
  omega

theorem stepsBelow_le_of_wide {magnitude : Nat} {e : Int} (wide : Wide magnitude (e + 1)) :
    stepsBelow magnitude e ≤ 20 * 2 ^ 53 := by
  have below := stepsBelow_le magnitude e
  have gap := unitsOf_le_gap magnitude
  have scale := tenTo_succ e
  obtain ⟨up, down⟩ := tenTo_pos e
  obtain ⟨-, downNext⟩ := tenTo_pos (e + 1)
  have positive := unitsPerOne_pos
  rw [Wide] at wide
  generalize stepsBelow magnitude e = n at *
  generalize unitsOf magnitude = units at *
  generalize unitsOf (magnitude + 1) = above at *
  generalize unitsOf (magnitude - 1) = under at *
  generalize unitsPerOne = one at *
  generalize (tenTo e).1 = a at *
  generalize (tenTo e).2 = b at *
  generalize (tenTo (e + 1)).1 = c at *
  generalize (tenTo (e + 1)).2 = d at *
  have crossed : above * b ≤ under * b + 20 * (a * one) := by
    refine Nat.le_of_mul_le_mul_right ?_ downNext
    calc above * b * d = above * d * b := by ring
      _ ≤ (under * d + 2 * (c * one)) * b := Nat.mul_le_mul_right b wide
      _ = under * b * d + 2 * (c * b) * one := by ring
      _ = (under * b + 20 * (a * one)) * d := by rw [scale]; ring
  have bound : n * (a * one) ≤ 20 * 2 ^ 53 * (a * one) := by
    have spread := Nat.mul_le_mul_right b gap
    rw [Nat.add_mul, Nat.mul_assoc, Nat.mul_assoc] at spread
    have total : n * (a * one) = n * a * one := by ring
    omega
  exact Nat.le_of_mul_le_mul_right bound (Nat.mul_pos up positive)

/-- A bound on one power of two carries over to the others by its roots. -/
theorem two_pow_le_ten_pow {p q : Nat} (nonzero : p ≠ 0) (bound : 2 ^ p ≤ 10 ^ q) {n places : Nat}
    (room : n * q ≤ places * p) : 2 ^ n ≤ 10 ^ places := by
  refine (Nat.pow_le_pow_iff_left nonzero).mp ?_
  calc (2 ^ n) ^ p = (2 ^ p) ^ n := Nat.pow_right_comm 2 n p
    _ ≤ (10 ^ q) ^ n := Nat.pow_le_pow_left bound n
    _ = 10 ^ (n * q) := by rw [← Nat.pow_mul, Nat.mul_comm]
    _ ≤ 10 ^ (places * p) := Nat.pow_le_pow_right (by decide) room
    _ = (10 ^ places) ^ p := Nat.pow_mul 10 places p

theorem log_factor : 2 ^ 100000 ≤ 10 ^ 30103 := by
  decide +kernel

theorem ten_pow_le_unitsPerOne : 0 < 10 ^ 324 ∧ 10 ^ 324 ≤ 8 * unitsPerOne := by
  decide +kernel

theorem unitsOf_succ_le {magnitude : Nat} (positive : 0 < magnitude) :
    unitsOf (magnitude + 1) ≤ 2 * unitsOf magnitude := by
  obtain ⟨shift, significand, rfl, fits, next⟩ := exists_fits magnitude
  have nonzero : 0 < significand := by
    have leading := fits.1
    simp only [fractionCount] at leading positive
    rcases leading with rfl | large
    · omega
    · omega
  have step := Nat.mul_le_mul_right (Nat.pow 2 shift) (show 1 ≤ significand from nonzero)
  rw [Nat.add_assoc, unitsOf_of_fits next, unitsOf_of_fits fits, Nat.succ_mul]
  omega

/-- The steps of the first grid are wider than the double. -/
theorem wide_firstGrid {magnitude : Nat} (positive : 0 < magnitude) :
    Wide magnitude ((firstGrid magnitude : Int) - 324 + 1) := by
  have next := unitsOf_succ_le positive
  have log : unitsOf magnitude < 2 * 2 ^ (unitsOf magnitude).log2 := by
    have below := Nat.lt_log2_self (n := unitsOf magnitude)
    rw [Nat.pow_succ] at below
    omega
  have power : 16 * 2 ^ (unitsOf magnitude).log2 ≤ 10 ^ (firstGrid magnitude + 1) := by
    rw [firstGrid]
    generalize (unitsOf magnitude).log2 = n
    have bound : 2 ^ n ≤ 10 ^ (n * 30103 / 100000 + 1) :=
      two_pow_le_ten_pow (by decide) log_factor (by omega)
    rw [Nat.add_assoc, show 2 + 1 = 1 + 2 from rfl, ← Nat.add_assoc, Nat.pow_add 10 _ 2]
    omega
  have scale := tenTo_sub (firstGrid magnitude + 1) 324
  have same : ((firstGrid magnitude + 1 : Nat) : Int) - (324 : Nat) =
      (firstGrid magnitude : Int) - 324 + 1 := by omega
  rw [same] at scale
  obtain ⟨nonzero, unit⟩ := ten_pow_le_unitsPerOne
  have wide : unitsOf magnitude * (tenTo ((firstGrid magnitude : Int) - 324 + 1)).2 ≤
      (tenTo ((firstGrid magnitude : Int) - 324 + 1)).1 * unitsPerOne := by
    generalize (tenTo ((firstGrid magnitude : Int) - 324 + 1)).1 = a at scale ⊢
    generalize (tenTo ((firstGrid magnitude : Int) - 324 + 1)).2 = b at scale ⊢
    generalize 10 ^ 324 = big at scale unit nonzero
    refine Nat.le_of_mul_le_mul_right ?_ nonzero
    calc unitsOf magnitude * b * big ≤
        2 * 2 ^ (unitsOf magnitude).log2 * b * (8 * unitsPerOne) :=
          Nat.mul_le_mul (Nat.mul_le_mul_right b log.le) unit
      _ = 16 * 2 ^ (unitsOf magnitude).log2 * (b * unitsPerOne) := by ring
      _ ≤ 10 ^ (firstGrid magnitude + 1) * (b * unitsPerOne) := Nat.mul_le_mul_right _ power
      _ = a * unitsPerOne * big := by rw [← Nat.mul_assoc, ← scale]; ring
  rw [Wide]
  have spread := Nat.mul_le_mul_right (tenTo ((firstGrid magnitude : Int) - 324 + 1)).2 next
  rw [Nat.mul_assoc] at spread
  omega

/-- The shortest decimal of a finite double is between the midpoints around it. -/
theorem shortest_spec {x : Binary64} (nonzero : 0 < x.magnitude) :
    x.shortest.negative = x.negative ∧ 0 < x.shortest.coefficient ∧
      x.shortest.coefficient ≤ 20 * 2 ^ 53 + 1 ∧
      Nearest x.magnitude
        (x.shortest.coefficient * (tenTo x.shortest.exponent).1 * unitsPerOne)
        (tenTo x.shortest.exponent).2 := by
  cases found : coarsest x.magnitude (firstGrid x.magnitude) with
  | mk coefficient exponent =>
    have shape : x.shortest = ⟨x.negative, coefficient, exponent⟩ := by
      rw [shortest, if_neg (Nat.pos_iff_ne_zero.mp nonzero), found]
    obtain ⟨positive, near, rounds, wide⟩ :=
      coarsest_spec nonzero (wide_firstGrid nonzero) found
    have bound := stepsBelow_le_of_wide wide
    rw [shape]
    exact ⟨rfl, positive, by simp only; omega, roundsTo_iff.mp rounds⟩

end GameShelf.Binary64
