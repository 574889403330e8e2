import GameShelf.Json.Numeral
import GameShelf.Json.Quoted

namespace GameShelf

/-- A JSON document. Members keep their order and may repeat a key. -/
inductive Json
  | null
  | bool (value : Bool)
  | number (numeral : Numeral)
  | string (content : Json.Content)
  | array (items : List Json)
  | object (members : List (Json.Content × Json))

namespace Json

def ofString (text : String) : Json :=
  .string (some text)

def ofNat (n : Nat) : Json :=
  .number (.ofNat n)

def ofInt (n : Int) : Json :=
  .number (.ofInt n)

/-- A double. The numbers that are not finite have no numeral. -/
def ofBinary64 (x : Binary64) : Json :=
  if x.isFinite then .number (.ofFinite x) else .null

def ofMembers (members : List (String × Json)) : Json :=
  .object (members.map fun (key, value) => (some key, value))

/-- `true` or `false`. -/
def boolText (value : Bool) : List Char :=
  if value then "true".toList else "false".toList

mutual

/-- The document without any white space. -/
def compact : Json → List Char
  | null => "null".toList
  | bool value => boolText value
  | number numeral => numeral.text
  | string content => Quoted.encode content
  | array [] => "[]".toList
  | array (item :: items) => '[' :: (compact item ++ compactItems items)
  | object [] => ['{', '}']
  | object ((key, value) :: members) =>
    '{' :: (Quoted.encode key ++ ':' :: (compact value ++ compactMembers members))

/-- The items after the first, and the closing bracket. -/
def compactItems : List Json → List Char
  | [] => [']']
  | item :: items => ',' :: (compact item ++ compactItems items)

/-- The members after the first, and the closing brace. -/
def compactMembers : List (Content × Json) → List Char
  | [] => ['}']
  | (key, value) :: members =>
    ',' :: (Quoted.encode key ++ ':' :: (compact value ++ compactMembers members))

end

/-- The start of a line at a depth. -/
def newline (depth : Nat) : List Char :=
  '\n' :: List.replicate (2 * depth) ' '

mutual

/-- The document at a depth, each item and member on a line of its own. -/
def indented (depth : Nat) : Json → List Char
  | null => "null".toList
  | bool value => boolText value
  | number numeral => numeral.text
  | string content => Quoted.encode content
  | array [] => "[]".toList
  | array (item :: items) =>
    '[' :: (newline (depth + 1) ++ indented (depth + 1) item ++ indentedItems depth items)
  | object [] => ['{', '}']
  | object ((key, value) :: members) =>
    '{' :: (newline (depth + 1) ++ Quoted.encode key ++ ':' :: ' ' ::
      (indented (depth + 1) value ++ indentedMembers depth members))

/-- The items after the first, and the closing bracket at `depth`. -/
def indentedItems (depth : Nat) : List Json → List Char
  | [] => newline depth ++ [']']
  | item :: items =>
    ',' :: (newline (depth + 1) ++ indented (depth + 1) item ++ indentedItems depth items)

/-- The members after the first, and the closing brace at `depth`. -/
def indentedMembers (depth : Nat) : List (Content × Json) → List Char
  | [] => newline depth ++ ['}']
  | (key, value) :: members =>
    ',' :: (newline (depth + 1) ++ Quoted.encode key ++ ':' :: ' ' ::
      (indented (depth + 1) value ++ indentedMembers depth members))

end

def compactText (json : Json) : String :=
  String.ofList json.compact

def prettyText (json : Json) : String :=
  String.ofList (json.indented 0)

end Json

end GameShelf
