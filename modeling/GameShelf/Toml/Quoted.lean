import GameShelf.Json.Quoted

namespace GameShelf.Toml.Quoted

/-- The characters that may stand in a quoted string or a comment as they are. -/
def isPlain (c : Char) : Bool :=
  c = '\t' || (0x20 ≤ c.toNat && c.toNat != 0x7f)

def isSpace (c : Char) : Bool :=
  c = ' ' || c = '\t'

/-- Where a reader of escapes is: between characters, after a backslash, in the white space between
a backslash and the end of its line, in the white space skipped after that, or inside an escape
that still lacks some digits. -/
inductive Mode
  | plain
  | escaped
  | lineEnd
  | skipping
  | hex (missing code : Nat)
deriving DecidableEq

/-- The character that a one-letter escape stands for. -/
def unescape? (c : Char) : Option Char :=
  if c = '"' || c = '\\' then some c
  else if c = 'n' then some '\n'
  else if c = 'r' then some '\r'
  else if c = 't' then some '\t'
  else if c = 'b' then some '\x08'
  else if c = 'f' then some '\x0c'
  else none

/-- The character with this number. Surrogates are none. -/
def charOf? (code : Nat) : Option Char :=
  if code.isValidChar then some (Char.ofNat code) else none

/-- What a closing triple quote leaves: up to two more quotes belong to the string. -/
def closing (quote : Char) : List Char → List Char × List Char
  | c :: d :: rest =>
    if c = quote && d = quote then ([quote, quote], rest)
    else if c = quote then ([quote], d :: rest)
    else ([], c :: d :: rest)
  | [c] => if c = quote then ([quote], []) else ([], [c])
  | [] => ([], [])

abbrev Result :=
  Option (List Char × List Char)

/-- Adds a character in front of what was read. -/
def cons (c : Char) (result : Result) : Result :=
  result.map fun (text, rest) => (c :: text, rest)

/-- Reads a string with escapes up to its closing quotes. -/
def readEscaped? (multiline : Bool) (mode : Mode) : List Char → Result
  | [] => none
  | c :: rest =>
    match mode with
    | .escaped =>
      if c = 'u' then readEscaped? multiline (.hex 4 0) rest
      else if c = 'U' then readEscaped? multiline (.hex 8 0) rest
      else if multiline && isSpace c then readEscaped? multiline .lineEnd rest
      else if multiline && c = '\n' then readEscaped? multiline .skipping rest
      else match unescape? c with
        | some c => cons c (readEscaped? multiline .plain rest)
        | none => none
    | .lineEnd =>
      if isSpace c then readEscaped? multiline .lineEnd rest
      else if c = '\n' then readEscaped? multiline .skipping rest
      else none
    | .hex missing code =>
      match Json.Quoted.hexValue? c with
      | none => none
      | some digit =>
        if missing = 1 then
          match charOf? (16 * code + digit) with
          | some c => cons c (readEscaped? multiline .plain rest)
          | none => none
        else readEscaped? multiline (.hex (missing - 1) (16 * code + digit)) rest
    | mode =>
      if mode = .skipping && (isSpace c || c = '\n') then readEscaped? multiline .skipping rest
      else if c = '\\' then readEscaped? multiline .escaped rest
      else if c = '"' then
        if multiline then
          match rest with
          | '"' :: '"' :: after => some (closing '"' after)
          | _ => cons '"' (readEscaped? multiline .plain rest)
        else some ([], rest)
      else if multiline && c = '\n' then cons '\n' (readEscaped? multiline .plain rest)
      else if isPlain c then cons c (readEscaped? multiline .plain rest)
      else none

/-- Reads a string without escapes up to its closing quotes. -/
def readLiteral? (multiline : Bool) : List Char → Result
  | [] => none
  | c :: rest =>
    if c = '\'' then
      if multiline then
        match rest with
        | '\'' :: '\'' :: after => some (closing '\'' after)
        | _ => cons '\'' (readLiteral? multiline rest)
      else some ([], rest)
    else if multiline && c = '\n' then cons '\n' (readLiteral? multiline rest)
    else if isPlain c then cons c (readLiteral? multiline rest)
    else none

/-- A line break right after the opening quotes does not count. -/
def dropLineBreak : List Char → List Char
  | '\n' :: rest => rest
  | rest => rest

/-- Reads a string of one line. -/
def readLine? : List Char → Result
  | '"' :: rest => readEscaped? false .plain rest
  | '\'' :: rest => readLiteral? false rest
  | _ => none

/-- Reads a string of any kind. -/
def read? : List Char → Result
  | '"' :: '"' :: '"' :: rest => readEscaped? true .plain (dropLineBreak rest)
  | '\'' :: '\'' :: '\'' :: rest => readLiteral? true (dropLineBreak rest)
  | text => readLine? text

end GameShelf.Toml.Quoted
