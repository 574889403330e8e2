import GameShelf.Binary64.Shortest

namespace GameShelf

/-- `whole.fraction e exponent`. There is no point if the fraction is empty. The digits are kept, as
a reader may ask how many there were and whether the number was written as an integer. -/
structure Numeral where
  negative : Bool
  whole : List Char
  fraction : List Char
  exponent : Option Int
deriving DecidableEq

namespace Numeral

/-- Written without a point and without an exponent. -/
def isInteger (n : Numeral) : Bool :=
  n.fraction.isEmpty && n.exponent.isNone

/-- The number itself. -/
def toDecimal (n : Numeral) : Decimal :=
  ⟨n.negative, digitsValue (n.whole ++ n.fraction), n.exponent.getD 0 - n.fraction.length⟩

def ofInt (n : Int) : Numeral :=
  ⟨n < 0, Nat.toDigits 10 n.natAbs, [], none⟩

def ofNat (n : Nat) : Numeral :=
  ofInt n

/-- The numeral with these digits, of which `point` stand before the point. Numbers with up to 16
digits before it, or with at most four zeros after it, need no exponent. -/
def place (negative : Bool) (digits : List Char) (point : Int) : Numeral :=
  let size : Int := digits.length
  if size ≤ point && point ≤ 16 then
    ⟨negative, digits ++ List.replicate (point - size).toNat '0', ['0'], none⟩
  else if 0 < point && point ≤ 16 then
    ⟨negative, digits.take point.toNat, digits.drop point.toNat, none⟩
  else if -5 < point && point ≤ 0 then
    ⟨negative, ['0'], List.replicate (-point).toNat '0' ++ digits, none⟩
  else ⟨negative, digits.take 1, digits.drop 1, some (point - 1)⟩

/-- The shortest numeral of a finite double, with a point or an exponent. -/
def ofFinite (x : Binary64) : Numeral :=
  if x.magnitude = 0 then ⟨x.negative, ['0'], ['0'], none⟩
  else
    let decimal := x.shortest
    let digits := Nat.toDigits 10 decimal.coefficient
    place x.negative digits (digits.length + decimal.exponent)

def exponentText (e : Int) : List Char :=
  'e' :: (if e < 0 then '-' else '+') :: Nat.toDigits 10 e.natAbs

def text (n : Numeral) : List Char :=
  (if n.negative then ['-'] else []) ++ n.whole ++
    (if n.fraction.isEmpty then [] else '.' :: n.fraction) ++ (n.exponent.map exponentText).getD []

/-- The digits of an integer part: more than one do not begin with a zero. -/
def isWhole (digits : List Char) : Bool :=
  isDigits digits && (digits.length = 1 || digits.head? != some '0')

/-- A point with digits after it, if there is a point, and what follows. -/
def readFraction? : List Char → Option (List Char × List Char)
  | '.' :: rest =>
    let digits := rest.takeWhile Char.isDigit
    if digits.isEmpty then none else some (digits, rest.dropWhile Char.isDigit)
  | rest => some ([], rest)

/-- An exponent, if the letter for it comes next, and what follows. -/
def readExponent? : List Char → Option (Option Int × List Char)
  | [] => some (none, [])
  | c :: rest =>
    if c.toLower = 'e' then
      let (negative, rest) := Decimal.splitSign rest
      let digits := rest.takeWhile Char.isDigit
      if digits.isEmpty then none
      else
        let size := (digitsValue digits : Int)
        some (some (if negative then -size else size), rest.dropWhile Char.isDigit)
    else some (none, c :: rest)

/-- A minus in front, and what follows. -/
def readMinus : List Char → Bool × List Char
  | '-' :: rest => (true, rest)
  | rest => (false, rest)

/-- Reads the numeral at the front of a text. -/
def read? (text : List Char) : Option (Numeral × List Char) :=
  let (negative, rest) := readMinus text
  let whole := rest.takeWhile Char.isDigit
  if !isWhole whole then none
  else match readFraction? (rest.dropWhile Char.isDigit) with
    | none => none
    | some (fraction, rest) =>
      (readExponent? rest).map fun (exponent, rest) => (⟨negative, whole, fraction, exponent⟩, rest)

end Numeral

end GameShelf
