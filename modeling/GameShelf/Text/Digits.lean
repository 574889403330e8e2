namespace GameShelf

/-- The number that a row of decimal digits denotes. -/
def digitsValue (digits : List Char) : Nat :=
  digits.foldl (fun n c => 10 * n + (c.toNat - '0'.toNat)) 0

/-- Whether a text is a row of at least one digit. -/
def isDigits (text : List Char) : Bool :=
  !text.isEmpty && text.all Char.isDigit

/-- A number that is counted in a machine word of 64 bits. -/
def readWord? (text : List Char) : Option Nat :=
  if isDigits text && digitsValue text < UInt64.size then some (digitsValue text) else none

end GameShelf
