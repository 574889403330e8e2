import GameShelf.Json.Quoted

namespace GameShelf.Toml.QuotedForm

/-- The control characters that no form holds as they are. Tabs and line feeds have their own
rules. -/
def needsCode (c : Char) : Bool :=
  (c.toNat < 0x20 && c != '\t' && c != '\n') || c.toNat = 0x7f

/-- The length of the longest row of `quote`, with `current` of them just before. -/
def longestRow (quote : Char) (current : Nat) : List Char → Nat
  | [] => current
  | c :: text =>
    if c = quote then longestRow quote (current + 1) text
    else max current (longestRow quote 0 text)

inductive Form
  | basic
  | literal
  | basicLines
  | literalLines
deriving DecidableEq

/-- The form in which a text is written: the plainest that can hold it, and one with escapes only
where no other can. -/
def choose (text : List Char) : Form :=
  let codes := text.any needsCode
  let backslash := text.contains '\\'
  let lines := text.contains '\n'
  let double := longestRow '"' 0 text
  let single := longestRow '\'' 0 text
  if !codes && !backslash && double = 0 && !lines then .basic
  else if !codes && single = 0 && !lines then .literal
  else if !codes && !backslash && double ≤ 2 then .basicLines
  else if !codes && single ≤ 2 then .literalLines
  else if lines then .basicLines
  else .basic

/-- A control character by its number. -/
def codeEscape (c : Char) : List Char :=
  ['\\', 'u', '0', '0', Json.Quoted.hexDigit (c.toNat / 16) |>.toUpper,
    Json.Quoted.hexDigit (c.toNat % 16) |>.toUpper]

/-- A character with an escape of its own. -/
def shortEscape? (multiline : Bool) (c : Char) : Option (List Char) :=
  if c = '\\' then some ['\\', '\\']
  else if c = '\t' then some ['\\', 't']
  else if c = '\r' then some ['\\', 'r']
  else if c = '\x08' then some ['\\', 'b']
  else if c = '\x0c' then some ['\\', 'f']
  else if c = '\n' && !multiline then some ['\\', 'n']
  else none

/-- A text with its escapes. On several lines up to two quotes in a row need none; `quotes` counts
those just before. -/
def escaped (multiline : Bool) (quotes : Nat) : List Char → List Char
  | [] => []
  | c :: text =>
    if c = '"' then
      if multiline && quotes < 2 then '"' :: escaped multiline (quotes + 1) text
      else '\\' :: '"' :: escaped multiline 0 text
    else
      match shortEscape? multiline c with
      | some escape => escape ++ escaped multiline 0 text
      | none =>
        if needsCode c then codeEscape c ++ escaped multiline 0 text
        else c :: escaped multiline 0 text

/-- The line break after the opening quotes of a text with several lines. -/
def opening (text : List Char) : List Char :=
  if text.contains '\n' then ['\n'] else []

/-- A text as a TOML string. -/
def encode (text : List Char) : List Char :=
  match choose text with
  | .basic => '"' :: escaped false 0 text ++ ['"']
  | .literal => '\'' :: text ++ ['\'']
  | .basicLines => ['"', '"', '"'] ++ opening text ++ escaped true 0 text ++ ['"', '"', '"']
  | .literalLines => ['\'', '\'', '\''] ++ opening text ++ text ++ ['\'', '\'', '\'']

end GameShelf.Toml.QuotedForm
