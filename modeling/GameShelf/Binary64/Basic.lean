namespace GameShelf

/-- A 64-bit binary floating-point number. `magnitude` holds the exponent field above the 52 bits
of the fraction, so magnitudes grow with the absolute value. -/
structure Binary64 where
  negative : Bool
  magnitude : Nat
  magnitude_lt : magnitude < 0x8000000000000000
deriving DecidableEq

namespace Binary64

/-- How many fractions there are, and so how many magnitudes share an exponent field: 2^52. -/
def fractionCount : Nat :=
  0x10000000000000

/-- The magnitude of infinity; those above it are NaNs. -/
def infinityMagnitude : Nat :=
  2047 * fractionCount

def zero (negative : Bool) : Binary64 :=
  ⟨negative, 0, by decide⟩

def infinity (negative : Bool) : Binary64 :=
  ⟨negative, infinityMagnitude, by decide⟩

/-- The quiet NaN without a payload. -/
def nan (negative : Bool) : Binary64 :=
  ⟨negative, infinityMagnitude + fractionCount / 2, by decide⟩

instance : Inhabited Binary64 :=
  ⟨zero false⟩

def isNaN (x : Binary64) : Bool :=
  infinityMagnitude < x.magnitude

def isFinite (x : Binary64) : Bool :=
  x.magnitude < infinityMagnitude

/-- The 64 bits as a number. -/
def bits (x : Binary64) : Nat :=
  (if x.negative then 0x8000000000000000 else 0) + x.magnitude

/-- How many units make one. The unit is the least positive double, 2^-1074. -/
def unitsPerOne : Nat :=
  Nat.pow 2 1074

/-- The absolute value that a finite magnitude stands for, in units. -/
def unitsOf (magnitude : Nat) : Nat :=
  if magnitude < fractionCount then magnitude
  else (fractionCount + magnitude % fractionCount) * Nat.pow 2 (magnitude / fractionCount - 1)

def units (x : Binary64) : Nat :=
  unitsOf x.magnitude

def negate (x : Binary64) : Binary64 :=
  { x with negative := !x.negative }

/-- The magnitude with its sign; both zeros have 0. -/
def signedMagnitude (x : Binary64) : Int :=
  if x.negative then -(x.magnitude : Int) else x.magnitude

/-- The comparison of values. A NaN is unordered, also to itself. -/
def partialOrder (x y : Binary64) : Option Ordering :=
  if x.isNaN || y.isNaN then none else some (compare x.signedMagnitude y.signedMagnitude)

/-- The place of a bit pattern in the total order: negative NaNs first, then the negative numbers
up to -0, then those from +0 on, positive NaNs last. -/
def rank (x : Binary64) : Int :=
  if x.negative then -1 - (x.magnitude : Int) else x.magnitude

def totalOrder (x y : Binary64) : Ordering :=
  compare x.rank y.rank

theorem rank_injective {x y : Binary64} (same : x.rank = y.rank) : x = y := by
  obtain ⟨negative, magnitude, _⟩ := x
  obtain ⟨negative', magnitude', _⟩ := y
  cases negative <;> cases negative' <;> simp [rank] at same ⊢ <;> omega

end Binary64

end GameShelf
