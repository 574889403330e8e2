import GameShelf.Binary64.Basic

namespace GameShelf

/-- The whole number nearest to `num / den`, and the even one of two that are equally near. -/
def roundHalfEven (num den : Nat) : Nat :=
  let floor := num / den
  let rest := num % den
  if 2 * rest < den then floor
  else if den < 2 * rest then floor + 1
  else floor + floor % 2

namespace Binary64

/-- The magnitude nearest to `num / den`. Doubles with the same exponent are evenly spaced, so it
takes one division. With `shift` binary places below the 53 kept ones, the rounded significand and
the exponent field are added, so that a carry moves into the exponent. -/
def nearestMagnitude (num den : Nat) : Nat :=
  let scaled := num * unitsPerOne
  let shift := (scaled / den).log2 - 52
  shift * fractionCount + roundHalfEven scaled (den * Nat.pow 2 shift)

/-- The double nearest to `num / den`, ties going to the even significand and overflow to
infinity. -/
def ofRatio (negative : Bool) (num den : Nat) : Binary64 :=
  let magnitude := nearestMagnitude num den
  if h : magnitude < infinityMagnitude then
    ⟨negative, magnitude, Nat.lt_trans h (by decide)⟩
  else infinity negative

def ofNat (n : Nat) : Binary64 :=
  ofRatio false n 1

def ofInt (n : Int) : Binary64 :=
  ofRatio (n < 0) n.natAbs 1

end Binary64

end GameShelf
