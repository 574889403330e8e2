import GameShelf.Catalog.Record
import GameShelf.Files.FileError

namespace GameShelf

/-- Why there is no catalog. -/
inductive CatalogError
  | noDataDirectory
  | notFound (path : String)
  | unreadable (path cause : String)
  | malformed
deriving DecidableEq

def CatalogError.message : CatalogError → String
  | noDataDirectory => "failed to determine data directory: no valid home directory found"
  | notFound path => "catalog file '" ++ path ++ "' not found"
  | unreadable path cause => "failed to read catalog file '" ++ path ++ "': " ++ cause
  | malformed => "JSON error: not an array of games"

namespace Catalog

/-- The games that a text records. -/
def read? (text : String) : Option (List Game) :=
  match Json.read? text with
  | some (.array items) => items.mapM Record.ofJson?
  | _ => none

def toJson (games : List Game) : Json :=
  .array (games.map Record.toJson)

/-- The catalog from what reading its file gave. -/
def ofFile (path : String) (content : Except FileError ByteArray) :
    Except CatalogError (List Game) :=
  match content with
  | .error .notFound => .error (.notFound path)
  | .error error => .error (.unreadable path error.message)
  | .ok bytes =>
    match String.fromUTF8? bytes with
    | none => .error (.unreadable path FileError.notText.message)
    | some text =>
      match read? text with
      | none => .error .malformed
      | some games => .ok games

end Catalog

end GameShelf
