namespace GameShelf.Json

/-- What a quoted string denotes: a text, or `none` if an escape in it is half of a surrogate pair
without the other half. -/
abbrev Content := Option String

namespace Quoted

/-- A character, or a surrogate from an escape. -/
inductive Piece
  | char (c : Char)
  | surrogate (unit : Nat)
deriving DecidableEq

def hexDigit (n : Nat) : Char :=
  (Nat.toDigits 16 n).headD '0'

def hexValue? (c : Char) : Option Nat :=
  if '0' ≤ c && c ≤ '9' then some (c.toNat - '0'.toNat)
  else if 'a' ≤ c && c ≤ 'f' then some (c.toNat - 'a'.toNat + 10)
  else if 'A' ≤ c && c ≤ 'F' then some (c.toNat - 'A'.toNat + 10)
  else none

/-- A character inside quotes. Only quotes, backslashes and the control characters below U+0020
are escaped. -/
def escape (c : Char) : List Char :=
  if c = '"' then ['\\', '"']
  else if c = '\\' then ['\\', '\\']
  else if c = '\n' then ['\\', 'n']
  else if c = '\r' then ['\\', 'r']
  else if c = '\t' then ['\\', 't']
  else if c = '\x08' then ['\\', 'b']
  else if c = '\x0c' then ['\\', 'f']
  else if c.toNat < 0x20 then
    ['\\', 'u', '0', '0', hexDigit (c.toNat / 16), hexDigit (c.toNat % 16)]
  else [c]

/-- The quoted form. What is no text is written as one lone surrogate. -/
def encode : Content → List Char
  | some text => '"' :: text.toList.flatMap escape ++ ['"']
  | none => "\"\\ud800\"".toList

/-- The piece that a four-digit escape stands for. -/
def ofUnit (unit : Nat) : Piece :=
  if 0xd800 ≤ unit && unit < 0xe000 then .surrogate unit else .char (Char.ofNat unit)

/-- The character that a one-letter escape stands for. -/
def unescape? (c : Char) : Option Char :=
  if c = '"' || c = '\\' || c = '/' then some c
  else if c = 'n' then some '\n'
  else if c = 'r' then some '\r'
  else if c = 't' then some '\t'
  else if c = 'b' then some '\x08'
  else if c = 'f' then some '\x0c'
  else none

def hexUnit? (a b c d : Char) : Option Nat :=
  match hexValue? a, hexValue? b, hexValue? c, hexValue? d with
  | some a, some b, some c, some d => some (((a * 16 + b) * 16 + c) * 16 + d)
  | _, _, _, _ => none

/-- Reads up to the closing quote, and returns what follows it. -/
def readPieces? : List Char → Option (List Piece × List Char)
  | [] => none
  | '"' :: rest => some ([], rest)
  | '\\' :: 'u' :: a :: b :: c :: d :: rest =>
    match hexUnit? a b c d with
    | none => none
    | some unit => (readPieces? rest).map fun (pieces, rest) => (ofUnit unit :: pieces, rest)
  | '\\' :: c :: rest =>
    match unescape? c with
    | none => none
    | some c => (readPieces? rest).map fun (pieces, rest) => (.char c :: pieces, rest)
  | c :: rest =>
    if c = '\\' || c.toNat < 0x20 then none
    else (readPieces? rest).map fun (pieces, rest) => (.char c :: pieces, rest)

/-- Joins each high surrogate with the low one that follows it. -/
def join? : List Piece → Option (List Char)
  | [] => some []
  | .char c :: pieces => (join? pieces).map (c :: ·)
  | .surrogate high :: .surrogate low :: pieces =>
    if high < 0xdc00 && 0xdc00 ≤ low then
      (join? pieces).map (Char.ofNat (0x10000 + (high - 0xd800) * 0x400 + (low - 0xdc00)) :: ·)
    else none
  | .surrogate _ :: _ => none

def contentOf (pieces : List Piece) : Content :=
  (join? pieces).map String.ofList

/-- Reads a string whose opening quote is already gone. -/
def read? (text : List Char) : Option (Content × List Char) :=
  (readPieces? text).map fun (pieces, rest) => (contentOf pieces, rest)

end Quoted

end GameShelf.Json
