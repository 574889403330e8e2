import GameShelf.Toml.Quoted
import GameShelf.Toml.Word

namespace GameShelf.Toml

/-- What a reader found, and the rest of the text. -/
abbrev Read (α : Type) :=
  Option (α × List Char)

namespace Reader

/-- No key has so many parts, and no value so many levels. -/
def limit : Nat :=
  80

def skipSpace (text : List Char) : List Char :=
  text.dropWhile Quoted.isSpace

/-- Drops a comment. -/
def skipComment : List Char → List Char
  | '#' :: rest => rest.dropWhile Quoted.isPlain
  | rest => rest

/-- What follows the end of a line, at which the text may stop. -/
def lineEnd? : List Char → Option (List Char)
  | [] => some []
  | '\n' :: rest => some rest
  | _ => none

/-- What follows a line on which only white space and a comment are left. -/
def trailing? (text : List Char) : Option (List Char) :=
  lineEnd? (skipComment (skipSpace text))

/-- Drops white space, line ends and whole comments. -/
def skipBlank (inComment : Bool) : List Char → List Char
  | [] => []
  | c :: rest =>
    if c = '\n' then skipBlank false rest
    else if inComment then if Quoted.isPlain c then skipBlank true rest else c :: rest
    else if Quoted.isSpace c then skipBlank false rest
    else if c = '#' then skipBlank true rest
    else c :: rest

def isBareChar (c : Char) : Bool :=
  c.isAlphanum || c = '_' || c = '-'

/-- One part of a key. -/
def keyPart? (text : List Char) : Read String :=
  match text with
  | '"' :: _ => (Quoted.readLine? text).map fun (part, rest) => (String.ofList part, rest)
  | '\'' :: _ => (Quoted.readLine? text).map fun (part, rest) => (String.ofList part, rest)
  | _ =>
    let part := text.takeWhile isBareChar
    if part.isEmpty then none else some (String.ofList part, text.dropWhile isBareChar)

/-- The parts of a key, with dots between them and white space around them. -/
def keyParts? : Nat → List Char → Read (List String)
  | 0, _ => none
  | fuel + 1, text =>
    match keyPart? (skipSpace text) with
    | none => none
    | some (part, rest) =>
      match skipSpace rest with
      | '.' :: rest => (keyParts? fuel rest).map fun (parts, rest) => (part :: parts, rest)
      | rest => some ([part], rest)

/-- A key: the path to a table, and the name in it. -/
def key? (text : List Char) : Read (List String × String) :=
  match keyParts? limit text with
  | some (parts, rest) =>
    match parts.getLast? with
    | some name => if parts.length < limit then some ((parts.dropLast, name), rest) else none
    | none => none
  | none => none

/-- A key and a value with an equals sign between them. -/
def pair? (value? : List Char → Read Toml) (text : List Char) :
    Read ((List String × String) × Toml) :=
  match key? text with
  | some (key, '=' :: rest) =>
    (value? (skipSpace rest)).map fun (value, rest) => ((key, value), rest)
  | _ => none

/-- The items of an array up to its closing bracket. A comma may stand after the last. -/
def items? (value? : List Char → Read Toml) : Nat → List Char → Read (List Toml)
  | 0, _ => none
  | fuel + 1, text =>
    match skipBlank false text with
    | ']' :: rest => some ([], rest)
    | text =>
      match value? text with
      | none => none
      | some (item, rest) =>
        match skipBlank false rest with
        | ',' :: rest => (items? value? fuel rest).map fun (items, rest) => (item :: items, rest)
        | ']' :: rest => some ([item], rest)
        | _ => none

/-- The pairs of an inline table after the first, each behind a comma. -/
def members? (value? : List Char → Read Toml) : Nat → Entries → List Char → Read Entries
  | 0, _, _ => none
  | fuel + 1, entries, text =>
    match pair? value? text with
    | none => none
    | some (((path, name), value), rest) =>
      match entries.insert? path name value with
      | none => none
      | some entries =>
        match skipSpace rest with
        | ',' :: rest => members? value? fuel entries rest
        | '}' :: rest => some (entries, rest)
        | _ => none

/-- A value that may nest `depth` levels deep. -/
def value? : Nat → List Char → Read Toml
  | depth, '[' :: rest =>
    match depth with
    | 0 => none
    | depth + 1 => (items? (value? depth) (rest.length + 1) rest).map fun (items, rest) =>
      (.array items, rest)
  | depth, '\x7b' :: rest =>
    match depth with
    | 0 => none
    | depth + 1 =>
      match skipSpace rest with
      | '}' :: rest => some (.table .inline [], rest)
      | rest => (members? (value? depth) (rest.length + 1) [] rest).map fun (entries, rest) =>
        (.table .inline entries, rest)
  | _, text =>
    match text with
    | '"' :: _ => (Quoted.read? text).map fun (text, rest) => (.string (String.ofList text), rest)
    | '\'' :: _ => (Quoted.read? text).map fun (text, rest) => (.string (String.ofList text), rest)
    | _ => Word.read? text

end Reader

/-- A document as far as it is read: all its tables, and the path to the one whose keys follow. -/
structure Draft where
  entries : Entries
  current : List String

namespace Draft

def start : Draft :=
  ⟨[], []⟩

/-- Adds a value to the current table. -/
def assign? (draft : Draft) (path : List String) (name : String) (value : Toml) : Option Draft :=
  (draft.entries.change? (·.insert? path name value) draft.current).map fun entries =>
    { draft with entries := entries }

/-- Makes the table that a header names the current one. -/
def enter? (draft : Draft) (double : Bool) (path : List String) (name : String) : Option Draft :=
  (draft.entries.openHeader? double path name).map fun entries => ⟨entries, path ++ [name]⟩

end Draft

namespace Reader

/-- A header without its opening brackets. -/
def header? (draft : Draft) (double : Bool) (text : List Char) : Read Draft :=
  match key? text with
  | none => none
  | some ((path, name), rest) =>
    let closed := match rest, double with
      | ']' :: ']' :: rest, true => some rest
      | ']' :: rest, false => some rest
      | _, _ => none
    match closed.bind trailing?, draft.enter? double path name with
    | some rest, some draft => some (draft, rest)
    | _, _ => none

/-- A line with a key and a value. -/
def assignment? (draft : Draft) (text : List Char) : Read Draft :=
  match pair? (value? (limit - 1)) text with
  | none => none
  | some (((path, name), value), rest) =>
    match trailing? rest, draft.assign? path name value with
    | some rest, some draft => some (draft, rest)
    | _, _ => none

/-- One line that is not blank, or a comment. -/
def line? (draft : Draft) (text : List Char) : Read Draft :=
  match text with
  | '#' :: _ => (trailing? text).map (draft, ·)
  | '[' :: '[' :: rest => header? draft true rest
  | '[' :: rest => header? draft false rest
  | text => assignment? draft text

/-- The lines of a document. A line takes a character at least, so the length of the text is fuel
enough. -/
def lines? : Nat → Draft → List Char → Option Draft
  | 0, _, _ => none
  | fuel + 1, draft, text =>
    match skipSpace text with
    | [] => some draft
    | '\n' :: rest => lines? fuel draft rest
    | text =>
      match line? draft text with
      | none => none
      | some (draft, rest) => lines? fuel draft rest

/-- The text with every line end written as a line feed. -/
def joinLineEnds : List Char → List Char
  | [] => []
  | '\r' :: '\n' :: rest => '\n' :: joinLineEnds rest
  | c :: rest => c :: joinLineEnds rest

/-- Drops the mark that some editors put before the first line. -/
def dropMark : List Char → List Char
  | '\ufeff' :: rest => rest
  | text => text

end Reader

/-- The entries of a document. -/
def read? (text : String) : Option Entries :=
  let text := Reader.joinLineEnds (Reader.dropMark text.toList)
  (Reader.lines? (text.length + 1) .start text).map Draft.entries

end GameShelf.Toml
