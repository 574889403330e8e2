import GameShelf.Binary64.Decimal
import GameShelf.Text.Splitting
import GameShelf.Toml.Table

namespace GameShelf.Toml.Word

/-- The characters of an unquoted value. -/
def isWordChar (c : Char) : Bool :=
  c.isAlphanum || c = '_' || c = '+' || c = '-' || c = '.' || c = ':'

/-- Groups of digits with single underscores between them, put together. -/
def ungrouped? (isDigit : Char → Bool) (text : List Char) : Option (List Char) :=
  let groups := text.splitOn '_'
  if groups.all fun group => !group.isEmpty && group.all isDigit then some groups.flatten else none

/-- The digits of a decimal integer, which has no leading zero. -/
def decimalDigits? (text : List Char) : Option (List Char) :=
  match ungrouped? Char.isDigit text with
  | some ('0' :: _ :: _) => none
  | digits => digits

/-- The value of a digit in a base up to 16. -/
def digitValue (c : Char) : Nat :=
  if c.isDigit then c.toNat - '0'.toNat else c.toLower.toNat - 'a'.toNat + 10

def isDigitIn (base : Nat) (c : Char) : Bool :=
  (c.isDigit || ('a' ≤ c.toLower && c.toLower ≤ 'f')) && digitValue c < base

def basedValue? (base : Nat) (text : List Char) : Option Int :=
  (ungrouped? (isDigitIn base) text).map fun digits =>
    (digits.foldl (fun n c => base * n + digitValue c) 0 : Nat)

def decimalValue? (text : List Char) : Option Int :=
  let (negative, body) := Decimal.splitSign text
  (decimalDigits? body).map fun digits =>
    if negative then -(digitsValue digits : Int) else digitsValue digits

/-- An integer of 64 bits, in base 10, 16, 8 or 2. -/
def integer? (text : List Char) : Option Toml :=
  let value := match text with
    | '0' :: 'x' :: digits => basedValue? 16 digits
    | '0' :: 'o' :: digits => basedValue? 8 digits
    | '0' :: 'b' :: digits => basedValue? 2 digits
    | _ => decimalValue? text
  match value with
  | some n =>
    if -0x8000000000000000 ≤ n ∧ n < 0x8000000000000000 then some (integer n) else none
  | none => none

/-- Splits at the letter E of an exponent. -/
def splitExponent (text : List Char) : List Char × Option (List Char) :=
  match text.dropWhile (fun c => c.toLower != 'e') with
  | [] => (text, none)
  | _ :: exponent => (text.takeWhile (fun c => c.toLower != 'e'), some exponent)

/-- An unsigned number with a fraction, an exponent or both, without its underscores. -/
def floatText? (text : List Char) : Option (List Char) :=
  let (mantissa, exponent) := splitExponent text
  let exponentText? := match exponent with
    | none => some []
    | some exponent =>
      let (negative, body) := Decimal.splitSign exponent
      (ungrouped? Char.isDigit body).map fun digits =>
        'e' :: (if negative then ['-'] else []) ++ digits
  match Text.splitFirst ['.'] mantissa with
  | none =>
    if exponent.isNone then none
    else match decimalDigits? mantissa, exponentText? with
      | some whole, some exponent => some (whole ++ exponent)
      | _, _ => none
  | some (whole, fraction) =>
    match decimalDigits? whole, ungrouped? Char.isDigit fraction, exponentText? with
    | some whole, some fraction, some exponent => some (whole ++ '.' :: fraction ++ exponent)
    | _, _, _ => none

/-- Whether a number without a sign is beyond the largest double. -/
def overflows (digits : List Char) : Bool :=
  match Binary64.ofText? (String.ofList digits) with
  | some x => !x.isFinite
  | none => false

/-- A number that is no integer. One too large is refused, but only above zero. -/
def float? (text : List Char) : Option Toml :=
  let (negative, body) := Decimal.splitSign text
  if body = "inf".toList || body = "nan".toList then some float
  else match floatText? body with
    | none => none
    | some digits => if !negative && overflows digits then none else some float

/-- A number of exactly `size` digits. -/
def fixed? (size : Nat) (text : List Char) : Option Nat :=
  if text.length = size && text.all Char.isDigit then some (digitsValue text) else none

def daysIn (year month : Nat) : Nat :=
  if month = 2 then
    if year % 4 = 0 && (year % 100 != 0 || year % 400 = 0) then 29 else 28
  else if [4, 6, 9, 11].contains month then 30
  else 31

/-- A day of the calendar, as `yyyy-mm-dd`. -/
def isDate (text : List Char) : Bool :=
  match text.splitOn '-' with
  | [year, month, day] =>
    match fixed? 4 year, fixed? 2 month, fixed? 2 day with
    | some year, some month, some day =>
      1 ≤ month && month ≤ 12 && 1 ≤ day && day ≤ daysIn year month
    | _, _, _ => false
  | _ => false

/-- Hours and minutes with a colon between them. -/
def isHourMinute (hour minute : List Char) : Bool :=
  match fixed? 2 hour, fixed? 2 minute with
  | some hour, some minute => hour ≤ 23 && minute ≤ 59
  | _, _ => false

/-- Seconds, up to a leap second, and perhaps a fraction of one. -/
def isSecond (text : List Char) : Bool :=
  let fractionOk := match text.drop 2 with
    | [] => true
    | '.' :: digits => isDigits digits
    | _ => false
  match fixed? 2 (text.take 2) with
  | some second => second ≤ 60 && fractionOk
  | none => false

/-- A time of day, as `hh:mm:ss`. -/
def isTime (text : List Char) : Bool :=
  match text.splitOn ':' with
  | [hour, minute, second] => isHourMinute hour minute && isSecond second
  | _ => false

/-- The offset of a time zone, as `hh:mm`. -/
def isOffset (text : List Char) : Bool :=
  match text.splitOn ':' with
  | [hour, minute] => isHourMinute hour minute
  | _ => false

/-- A time of day with or without a time zone. -/
def isZonedTime (text : List Char) : Bool :=
  let body := text.takeWhile fun c => c.isDigit || c = ':' || c = '.'
  isTime body && match text.drop body.length with
    | [] => true
    | [c] => c = 'Z' || c = 'z'
    | c :: offset => (c = '+' || c = '-') && isOffset offset

/-- A date, a time of day, or both. -/
def isDateTime (text : List Char) : Bool :=
  isTime text || isDate text ||
    (isDate (text.take 10) && match text.drop 10 with
      | c :: time => (c = 'T' || c = 't' || c = ' ') && isZonedTime time
      | [] => false)

/-- The value of a run of characters. -/
def value? (text : List Char) : Option Toml :=
  if text = "true".toList then some (boolean true)
  else if text = "false".toList then some (boolean false)
  else if isDateTime text then some dateTime
  else (integer? text).or (float? text)

/-- Reads an unquoted value. After a date, a space and a time of day belong to it. -/
def read? (text : List Char) : Option (Toml × List Char) :=
  let word := text.takeWhile isWordChar
  let rest := text.dropWhile isWordChar
  match rest with
  | ' ' :: c :: rest =>
    if isDate word && c.isDigit then
      let time := (c :: rest).takeWhile isWordChar
      if isZonedTime time then some (dateTime, (c :: rest).dropWhile isWordChar) else none
    else (value? word).map (·, ' ' :: c :: rest)
  | rest => (value? word).map (·, rest)

end GameShelf.Toml.Word
