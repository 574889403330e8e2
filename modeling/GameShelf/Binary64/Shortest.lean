import GameShelf.Binary64.Decimal

namespace GameShelf.Binary64

/-- `10 ^ e` as a fraction. -/
def tenTo (e : Int) : Nat × Nat :=
  (Nat.pow 10 e.toNat, Nat.pow 10 (-e).toNat)

/-- Whether `n * 10 ^ e` rounds to the double with this magnitude. The midpoints themselves do
just if the magnitude is even. -/
def roundsTo (magnitude n : Nat) (e : Int) : Bool :=
  let point := n * (tenTo e).1 * (2 * unitsPerOne)
  let low := (unitsOf (magnitude - 1) + unitsOf magnitude) * (tenTo e).2
  let high := (unitsOf magnitude + unitsOf (magnitude + 1)) * (tenTo e).2
  if magnitude % 2 = 0 then low ≤ point && point ≤ high else low < point && point < high

/-- The largest multiple of `10 ^ e` that is not above the double, as a number of steps. -/
def stepsBelow (magnitude : Nat) (e : Int) : Nat :=
  unitsOf magnitude * (tenTo e).2 / (unitsPerOne * (tenTo e).1)

/-- Of the points `n` and `n + 1` of the grid around the double, the nearer, or the even one. -/
def nearerPoint (magnitude n : Nat) (e : Int) : Nat :=
  let double := 2 * unitsOf magnitude * (tenTo e).2
  let middle := (2 * n + 1) * (tenTo e).1 * unitsPerOne
  if double < middle then n
  else if middle < double then n + 1
  else n + n % 2

/-- The point of the grid `10 ^ e` that stands for the double, if one reads back. Only the two
points around the double can. -/
def gridPoint? (magnitude : Nat) (e : Int) : Option Nat :=
  let n := stepsBelow magnitude e
  match decide (0 < n) && roundsTo magnitude n e, roundsTo magnitude (n + 1) e with
  | true, true => some (nearerPoint magnitude n e)
  | true, false => some n
  | false, true => some (n + 1)
  | false, false => none

/-- The first grid with a point that reads back, going down from `10 ^ (k - 324)`. The last grid,
`10 ^ -324`, is finer than the doubles anywhere. -/
def coarsest (magnitude : Nat) : Nat → Nat × Int
  | 0 => ((gridPoint? magnitude (-324)).getD (stepsBelow magnitude (-324)), -324)
  | k + 1 =>
    match gridPoint? magnitude ((k + 1 : Nat) - 324) with
    | some n => (n, (k + 1 : Nat) - 324)
    | none => coarsest magnitude k

/-- Where the search begins: the steps of grid `10 ^ (k - 324)` are wider than the double, and so
are those of all coarser grids. The factor is just above the decimal logarithm of 2. -/
def firstGrid (magnitude : Nat) : Nat :=
  (unitsOf magnitude).log2 * 30103 / 100000 + 2

/-- The shortest decimal that reads back as `x`, which must be finite. -/
def shortest (x : Binary64) : Decimal :=
  if x.magnitude = 0 then ⟨x.negative, 0, 0⟩
  else
    let (coefficient, exponent) := coarsest x.magnitude (firstGrid x.magnitude)
    ⟨x.negative, coefficient, exponent⟩

/-- The value to one decimal place, a half going to the even tenth. -/
def tenths (x : Binary64) : String :=
  let n := roundHalfEven (x.units * 10) unitsPerOne
  (if x.negative then "-" else "") ++ toString (n / 10) ++ "." ++ toString (n % 10)

end GameShelf.Binary64
