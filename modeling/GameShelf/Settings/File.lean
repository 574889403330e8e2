import GameShelf.Files.FileError
import GameShelf.Json.Basic
import GameShelf.Settings.Basic
import GameShelf.Toml.QuotedForm
import GameShelf.Toml.Reader

namespace GameShelf.Settings

/-- The version of the form that is written. -/
def version : Nat :=
  1

def readText? : Option Toml → Option (Option String)
  | none => some none
  | some (.string text) => some (some text)
  | some _ => none

def readBoolean? : Option Toml → Option (Option Bool)
  | none => some none
  | some (.boolean value) => some (some value)
  | some _ => none

/-- Any version will do, as long as it is one. -/
def isVersion : Option Toml → Bool
  | none => true
  | some (.integer n) => 0 ≤ n && n < 0x100000000
  | some _ => false

/-- The values of a section under some keys. A section may also be an array of all the values in
their order, and a date stands for an empty one. -/
def valuesOf? (keys : List String) : Option Toml → Option (List (Option Toml))
  | none => some (keys.map fun _ => none)
  | some .dateTime => some (keys.map fun _ => none)
  | some (.table _ entries) => some (keys.map fun key => entries.lookup key)
  | some (.array items) =>
    if items.length < keys.length then none else some ((items.take keys.length).map some)
  | some _ => none

/-- The settings in a document. What is not known is ignored, but what is must be of its kind. -/
def ofEntries? (entries : Toml.Entries) : Option Settings :=
  if !isVersion (entries.lookup "version") then none
  else
    match valuesOf? ["field", "ascending"] (entries.lookup "sort"),
      valuesOf? ["color"] (entries.lookup "output"), valuesOf? ["path"] (entries.lookup "list") with
    | some [field, ascending], some [color], some [path] => do
      some {
        catalog := ← readText? (entries.lookup "catalog")
        sortField := ← readText? field
        sortAscending := ← readBoolean? ascending
        outputColor := ← readBoolean? color
        listPath := ← readText? path }
    | _, _, _ => none

def read? (text : String) : Option Settings :=
  (Toml.read? text).bind ofEntries?

/-- `key = value` on a line of its own, if there is a value. -/
def entryLine (key : String) (value : Option (List Char)) : List Char :=
  match value with
  | none => []
  | some value => key.toList ++ " = ".toList ++ value ++ ['\n']

def textValue (text : String) : List Char :=
  Toml.QuotedForm.encode text.toList

/-- The document. The tables are written also if they are empty. -/
def text (settings : Settings) : String :=
  String.ofList (
    entryLine "version" (some (Nat.toDigits 10 version)) ++
    entryLine "catalog" (settings.catalog.map textValue) ++
    "\n[sort]\n".toList ++
    entryLine "field" (settings.sortField.map textValue) ++
    entryLine "ascending" (settings.sortAscending.map Json.boolText) ++
    "\n[output]\n".toList ++
    entryLine "color" (settings.outputColor.map Json.boolText) ++
    "\n[list]\n".toList ++
    entryLine "path" (settings.listPath.map textValue))

/-- A member that is there only with a value. -/
def optionalMember (key : String) (value : Option Json) : List (String × Json) :=
  match value with
  | none => []
  | some value => [(key, value)]

/-- The settings as a JSON object, its keys in alphabetical order. -/
def toJson (settings : Settings) : Json :=
  .ofMembers (
    optionalMember "catalog" (settings.catalog.map Json.ofString) ++
    [("list", .ofMembers (optionalMember "path" (settings.listPath.map Json.ofString))),
      ("output", .ofMembers (optionalMember "color" (settings.outputColor.map Json.bool))),
      ("sort", .ofMembers (
        optionalMember "ascending" (settings.sortAscending.map Json.bool) ++
        optionalMember "field" (settings.sortField.map Json.ofString))),
      ("version", .ofNat version)])

/-- The settings from what reading their file gave: defaults if there is none. -/
def ofFile (content : Except FileError ByteArray) : Except String Settings :=
  match content with
  | .error error => .error ("Failed to read config: " ++ error.message)
  | .ok bytes =>
    match String.fromUTF8? bytes with
    | none => .error ("Failed to read config: " ++ FileError.notText.message)
    | some text =>
      match read? text with
      | none => .error "Failed to parse config: not a document of settings"
      | some settings => .ok settings

/-- The lines of the document that stands at the beginning, with every setting in a comment. -/
def templateLines : List String :=
  ["# bgp - Board Game Planner Configuration",
    "",
    "# Config schema version (do not modify)",
    "version = 1",
    "",
    "# Catalog file (can also use BGP_CATALOG env var or --catalog)",
    "# catalog = \"/path/to/games.json\"",
    "",
    "# Default ordering for filter results",
    "[sort]",
    "# field = \"name\"            # name, " ++
      "rating, difficulty, rank, minPlayers, maxPlayers, minTime, maxTime, year",
    "# ascending = true",
    "",
    "# Output preferences",
    "[output]",
    "# color = true              # Enable colors (respects NO_COLOR env)",
    "",
    "# Saved game list",
    "[list]",
    "# path = \"games_list.txt\""]

def template : String :=
  String.join (templateLines.map (· ++ "\n"))

end GameShelf.Settings
