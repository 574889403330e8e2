import GameShelf.Catalog.Basic
import GameShelf.Shortlist.Selection

namespace GameShelf

inductive Failure
  | catalog (error : CatalogError)
  | shortlist (error : ShortlistError)
  | settings (message : String)
  | stream (cause : String)
  | serialization (cause : String)
deriving DecidableEq

namespace Failure

def message : Failure → String
  | catalog error => "catalog error: " ++ error.message
  | shortlist error => "game list error: " ++ error.message
  | settings message => "configuration error: " ++ message
  | stream cause => "I/O error: " ++ cause
  | serialization cause => "serialization error: " ++ cause

def code : Failure → String
  | catalog _ => "CATALOG_ERROR"
  | shortlist _ => "LIST_ERROR"
  | settings _ => "CONFIG_ERROR"
  | stream _ => "IO_ERROR"
  | serialization _ => "JSON_ERROR"

def exitStatus : Failure → UInt8
  | catalog (.notFound _) => 4
  | catalog _ => 5
  | shortlist _ => 1
  | settings _ => 5
  | stream _ => 3
  | serialization _ => 1

def toJson (failure : Failure) : Json :=
  .ofMembers [("error", .ofMembers [("code", .ofString failure.code),
    ("message", .ofString failure.message)])]

/-- What is told of the failure at the end of a run. -/
def report (json : Bool) (failure : Failure) : String :=
  if json then failure.toJson.prettyText ++ "\n" else "Error: " ++ failure.message ++ "\n"

end Failure

end GameShelf
