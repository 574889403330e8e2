import GameShelf.Json.Basic

namespace GameShelf.Json

inductive Token
  | beginObject
  | endObject
  | beginArray
  | endArray
  | colon
  | comma
  | null
  | bool (value : Bool)
  | number (numeral : Numeral)
  | string (content : Content)
deriving DecidableEq

namespace Token

/-- The white space that may stand between tokens. -/
def isSpace (c : Char) : Bool :=
  c = ' ' || c = '\t' || c = '\n' || c = '\r'

/-- The token at the front of a text that does not begin with white space. -/
def read? : List Char → Option (Token × List Char)
  | [] => none
  | '{' :: rest => some (beginObject, rest)
  | '}' :: rest => some (endObject, rest)
  | '[' :: rest => some (beginArray, rest)
  | ']' :: rest => some (endArray, rest)
  | ':' :: rest => some (colon, rest)
  | ',' :: rest => some (comma, rest)
  | '"' :: rest => (Quoted.read? rest).map fun (content, rest) => (string content, rest)
  | 'n' :: 'u' :: 'l' :: 'l' :: rest => some (null, rest)
  | 't' :: 'r' :: 'u' :: 'e' :: rest => some (bool true, rest)
  | 'f' :: 'a' :: 'l' :: 's' :: 'e' :: rest => some (bool false, rest)
  | text => (Numeral.read? text).map fun (numeral, rest) => (number numeral, rest)

/-- The tokens of a text, found in at most `fuel` steps. Each takes a character at least, so the
length of the text is fuel enough. -/
def scan? : Nat → List Char → Option (List Token)
  | 0, text => if text.all isSpace then some [] else none
  | fuel + 1, text =>
    match text.dropWhile isSpace with
    | [] => some []
    | text =>
      match read? text with
      | none => none
      | some (token, rest) => (scan? fuel rest).map (token :: ·)

end Token

/-- The tokens of a text. -/
def tokens? (text : List Char) : Option (List Token) :=
  Token.scan? text.length text

end GameShelf.Json
