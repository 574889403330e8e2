import GameShelf.Binary64.Rounding
import GameShelf.Text.Digits

namespace GameShelf

/-- `coefficient * 10 ^ exponent`, with a sign also for zero. -/
structure Decimal where
  negative : Bool
  coefficient : Nat
  exponent : Int

namespace Decimal

/-- The nearest double. Beyond 400 places the answer is zero or infinity, and the power of ten is
not worked out. -/
def toBinary64 (d : Decimal) : Binary64 :=
  if d.coefficient = 0 then .zero d.negative
  else if 400 < d.exponent then .infinity d.negative
  else if d.exponent < -(d.coefficient.log2 + 401 : Int) then .zero d.negative
  else .ofRatio d.negative (d.coefficient * Nat.pow 10 d.exponent.toNat)
    (Nat.pow 10 (-d.exponent).toNat)

/-- A leading sign, and whether it is a minus. -/
def splitSign : List Char → Bool × List Char
  | '-' :: rest => (true, rest)
  | '+' :: rest => (false, rest)
  | rest => (false, rest)

/-- The digits of an exponent. It grows no further once it has passed 65535, where every double has
long been left behind. -/
def exponentValue (digits : List Char) : Nat :=
  digits.foldl (fun n c => if n < 0x10000 then 10 * n + (c.toNat - '0'.toNat) else n) 0

/-- What follows the digits: nothing, or the letter E and a signed row of digits. -/
def readExponent? : List Char → Option Int
  | [] => some 0
  | e :: rest =>
    let (negative, digits) := splitSign rest
    if e.toLower = 'e' && isDigits digits then
      some (if negative then -(exponentValue digits : Int) else exponentValue digits)
    else none

/-- The digits after a point, if a point comes first, and what follows them. -/
def splitFraction : List Char → List Char × List Char
  | '.' :: rest => (rest.takeWhile Char.isDigit, rest.dropWhile Char.isDigit)
  | rest => ([], rest)

/-- A number without its sign. At least one digit stands before or after the point. -/
def readUnsigned? (negative : Bool) (text : List Char) : Option Decimal :=
  let whole := text.takeWhile Char.isDigit
  let (fraction, rest) := splitFraction (text.dropWhile Char.isDigit)
  if whole.isEmpty && fraction.isEmpty then none
  else (readExponent? rest).map fun exponent =>
    ⟨negative, digitsValue (whole ++ fraction), exponent - fraction.length⟩

end Decimal

/-- The double that a text names. Nothing may stand around the number, not even white space. -/
def Binary64.ofText? (text : String) : Option Binary64 :=
  let (negative, body) := Decimal.splitSign text.toList
  let word := String.ofList (body.map Char.toLower)
  if word = "nan" then some (.nan negative)
  else if word = "inf" || word = "infinity" then some (.infinity negative)
  else (Decimal.readUnsigned? negative body).map Decimal.toBinary64

end GameShelf
