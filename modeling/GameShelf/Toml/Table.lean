namespace GameShelf

/-- How a table came about. It may be extended in this way only. -/
inductive Toml.Origin
  | inline
  | header
  | ancestor
  | dotted
deriving DecidableEq

/-- A TOML value. Of numbers with a fraction and of dates only the kind is kept. `tables` is an
array of tables from headers in double brackets. -/
inductive Toml
  | string (text : String)
  | integer (n : Int)
  | float
  | boolean (value : Bool)
  | dateTime
  | array (items : List Toml)
  | table (origin : Toml.Origin) (entries : List (String × Toml))
  | tables (elements : List (List (String × Toml)))

namespace Toml

abbrev Entries :=
  List (String × Toml)

namespace Entries

/-- Puts a value under a key, instead of the one there. -/
def put (entries : Entries) (key : String) (value : Toml) : Entries :=
  if (entries.lookup key).isSome then
    entries.map fun entry => if entry.1 == key then (key, value) else entry
  else entries ++ [(key, value)]

/-- Changes the last element of an array of tables. -/
def changeLast? (change : Entries → Option Entries) : List Entries → Option (List Entries)
  | [] => none
  | [last] => (change last).map ([·])
  | element :: elements => (changeLast? change elements).map (element :: ·)

/-- Adds a value under a key that the table must not have yet. -/
def add? (entries : Entries) (key : String) (value : Toml) : Option Entries :=
  if (entries.lookup key).isSome then none else some (entries ++ [(key, value)])

/-- Adds a value under a dotted key. The tables on the way come about by it, or came about by
another dotted key; only further up they may also be ancestors from a header. -/
def insert? (entries : Entries) (path : List String) (key : String) (value : Toml) :
    Option Entries :=
  match path with
  | [] => entries.add? key value
  | name :: path =>
    match entries.lookup name with
    | none => (insert? [] path key value).map fun inner => entries.put name (table .dotted inner)
    | some (table .dotted inner) =>
      (insert? inner path key value).map fun inner => entries.put name (table .dotted inner)
    | some (table .ancestor inner) =>
      if path.isEmpty then none
      else (insert? inner path key value).map fun inner => entries.put name (table .ancestor inner)
    | some (tables elements) =>
      if path.isEmpty then none
      else (changeLast? (insert? · path key value) elements).map fun elements =>
        entries.put name (tables elements)
    | some _ => none

/-- Opens the table that a header names, in single or double brackets. A table can be opened once,
though others below it may have been opened before. -/
def openHeader? (double : Bool) (entries : Entries) (path : List String) (key : String) :
    Option Entries :=
  match path with
  | [] =>
    match entries.lookup key, double with
    | none, false => some (entries.put key (table .header []))
    | none, true => some (entries.put key (tables [[]]))
    | some (table .ancestor inner), false => some (entries.put key (table .header inner))
    | some (tables elements), true => some (entries.put key (tables (elements ++ [[]])))
    | some _, _ => none
  | name :: path =>
    match entries.lookup name with
    | none =>
      (openHeader? double [] path key).map fun inner => entries.put name (table .ancestor inner)
    | some (table .inline _) => none
    | some (table origin inner) =>
      (openHeader? double inner path key).map fun inner => entries.put name (table origin inner)
    | some (tables elements) =>
      (changeLast? (openHeader? double · path key) elements).map fun elements =>
        entries.put name (tables elements)
    | some _ => none

/-- Changes the table that stands at a path. -/
def change? (change : Entries → Option Entries) (entries : Entries) (path : List String) :
    Option Entries :=
  match path with
  | [] => change entries
  | name :: path =>
    match entries.lookup name with
    | some (table origin inner) =>
      (change? change inner path).map fun inner => entries.put name (table origin inner)
    | some (tables elements) =>
      (changeLast? (change? change · path) elements).map fun elements =>
        entries.put name (tables elements)
    | _ => none

end Entries

end Toml

end GameShelf
