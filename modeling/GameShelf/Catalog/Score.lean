import GameShelf.Json.Numeral

namespace GameShelf

namespace Binary64

/-- The product of two finite doubles without their signs, rounded once. -/
def scaleUp (x y : Binary64) : Binary64 :=
  ofRatio false (x.units * y.units) (unitsPerOne * unitsPerOne)

/-- The quotient of two finite doubles without their signs, rounded once. -/
def scaleDown (x y : Binary64) : Binary64 :=
  ofRatio false x.units y.units

/-- The double nearest to a power of ten. -/
def powerOfTen (e : Nat) : Binary64 :=
  ofNat (Nat.pow 10 e)

end Binary64

namespace Score

/-- Appends a digit to a significand, if it stays below 2^64. -/
def extend? (significand : Nat) (digit : Char) : Option Nat :=
  let next := 10 * significand + (digit.toNat - '0'.toNat)
  if next < UInt64.size then some next else none

/-- Gathers the digits of an integer part. From the first that does not fit on, they are only
counted. -/
def gatherWhole (significand : Nat) : List Char → Nat × Nat
  | [] => (significand, 0)
  | digit :: digits =>
    match extend? significand digit with
    | some next => gatherWhole next digits
    | none => (significand, digits.length + 1)

/-- Gathers the digits of a fraction, up to the first that does not fit, and counts them. -/
def gatherFraction (significand : Nat) : List Char → Nat × Nat
  | [] => (significand, 0)
  | digit :: digits =>
    match extend? significand digit with
    | some next =>
      let (significand, taken) := gatherFraction next digits
      (significand, taken + 1)
    | none => (significand, 0)

/-- Divides by `10 ^ e`, in steps of 308 places until nothing is left of the number. -/
def shrink (x : Binary64) (e : Nat) : Binary64 :=
  if e ≤ 308 then x.scaleDown (.powerOfTen e)
  else if x = .zero false then x
  else shrink (x.scaleDown (.powerOfTen 308)) (e - 308)
termination_by e

/-- Multiplies by `10 ^ e`. There is no result if it would be infinite. -/
def grow? (x : Binary64) (e : Nat) : Option Binary64 :=
  if 308 < e then if x = .zero false then some x else none
  else
    let y := x.scaleUp (.powerOfTen e)
    if y.isFinite then some y else none

/-- The score that a numeral is read as. Gathering and scaling both round, so it may differ in its
last bits from the double nearest to the numeral. -/
def ofNumeral? (n : Numeral) : Option Binary64 :=
  let (significand, dropped) := gatherWhole 0 n.whole
  let (significand, taken) := gatherFraction significand n.fraction
  let exponent : Int := n.exponent.getD 0 + dropped - taken
  let x := Binary64.ofNat significand
  let scaled := if 0 ≤ exponent then grow? x exponent.toNat else some (shrink x (-exponent).toNat)
  scaled.map fun x => if n.negative then x.negate else x

end Score

end GameShelf
