import GameShelf.Files.FileError
import GameShelf.Files.Node
import GameShelf.Files.Path

namespace GameShelf

/-- The nodes below the root, each with the names that lead to it, and the directory that relative
paths start from. -/
structure FileTree where
  nodes : List (List String × Node)
  current : List String

namespace FileTree

/-- A root with nothing below it. -/
def empty : FileTree :=
  ⟨[], []⟩

/-- What stands at a place. The root always does. -/
def node? (tree : FileTree) (place : List String) : Option Node :=
  if place.isEmpty then some .directory else tree.nodes.lookup place

/-- Puts a node at a place, instead of the one there. -/
def put (tree : FileTree) (place : List String) (node : Node) : FileTree :=
  let nodes :=
    if (tree.nodes.lookup place).isSome then
      tree.nodes.map fun entry => if entry.1 == place then (place, node) else entry
    else tree.nodes ++ [(place, node)]
  { tree with nodes := nodes }

/-- The longest name that a directory can hold, in bytes. -/
def maxName : Nat :=
  255

/-- The longest path, in bytes. -/
def maxPath : Nat :=
  4095

/-- One step down from a directory, or up for two dots; the root has nothing above it. -/
def descend (place : List String) (name : String) : Except FileError (List String) :=
  if name = "." then .ok place
  else if name = ".." then .ok place.dropLast
  else if maxName < name.utf8ByteSize then .error .nameTooLong
  else .ok (place ++ [name])

/-- Follows names through directories. -/
def enter (tree : FileTree) (place : List String) : List String → Except FileError (List String)
  | [] => .ok place
  | name :: names =>
    match descend place name with
    | .error error => .error error
    | .ok place =>
      match tree.node? place with
      | none => .error .notFound
      | some .directory => tree.enter place names
      | some _ => .error .notDirectory

/-- The directory in which a path ends, and its last component, which the root does not have. All
components before it must be directories. -/
def locate (tree : FileTree) (path : String) : Except FileError (List String × Option String) :=
  let names := Path.components path
  let start := if Path.isAbsolute path then [] else tree.current
  if path.toList.contains '\x00' then .error .nulInName
  else if maxPath < path.utf8ByteSize then .error .nameTooLong
  else if path.isEmpty then .error .notFound
  else (tree.enter start names.dropLast).map (·, names.getLast?)

/-- The place a path leads to. -/
def place (tree : FileTree) (path : String) : Except FileError (List String) :=
  match tree.locate path with
  | .error error => .error error
  | .ok (directory, none) => .ok directory
  | .ok (directory, some name) => descend directory name

/-- The node a path leads to. With a slash at its end it must be a directory. -/
def find (tree : FileTree) (path : String) : Except FileError Node :=
  match tree.place path with
  | .error error => .error error
  | .ok place =>
    match tree.node? place with
    | none => .error .notFound
    | some node =>
      if Path.endsInSlash path && node != .directory then .error .notDirectory else .ok node

def exists? (tree : FileTree) (path : String) : Bool :=
  match tree.find path with
  | .ok _ => true
  | .error _ => false

def isDirectory (tree : FileTree) (path : String) : Bool :=
  match tree.find path with
  | .ok node => node = .directory
  | .error _ => false

/-- What a file holds. A device holds nothing. -/
def read (tree : FileTree) (path : String) : Except FileError ByteArray :=
  match tree.find path with
  | .error error => .error error
  | .ok .directory => .error .isDirectory
  | .ok (.file content) => .ok content
  | .ok (.program content _) => .ok content
  | .ok (.device _) => .ok .empty

/-- Writes a file at a place. Devices stay what they are. -/
def fill (tree : FileTree) (place : List String) (content : ByteArray) :
    Except FileError FileTree :=
  match tree.node? place with
  | some .directory => .error .isDirectory
  | some (.device kind) =>
    if kind = .full && !content.isEmpty then .error .noSpace else .ok tree
  | _ => .ok (tree.put place (.file content))

/-- Creates or replaces a file. -/
def write (tree : FileTree) (path : String) (content : ByteArray) : Except FileError FileTree :=
  match tree.locate path with
  | .error error => .error error
  | .ok (_, none) => .error .isDirectory
  | .ok (directory, some name) =>
    if Path.endsInSlash path then .error .isDirectory
    else
      match descend directory name with
      | .error error => .error error
      | .ok place => tree.fill place content

/-- Creates one directory. -/
def makeDirectory (tree : FileTree) (path : String) : Except FileError FileTree :=
  match tree.place path with
  | .error error => .error error
  | .ok place =>
    if (tree.node? place).isSome then .error .alreadyExists else .ok (tree.put place .directory)

/-- Starts a program, and says whether it succeeds. -/
def launch (tree : FileTree) (path : String) : Except FileError Bool :=
  match tree.find path with
  | .error error => .error error
  | .ok (.program _ succeeds) => .ok succeeds
  | .ok _ => .error .permissionDenied

/-- The nodes below the current directory, each with the names that lead to it from there. -/
def inside (tree : FileTree) : List (List String × Node) :=
  tree.nodes.filterMap fun entry =>
    if tree.current.isPrefixOf entry.1 && tree.current != entry.1 then
      some (entry.1.drop tree.current.length, entry.2)
    else none

/-- The nodes below the current directory that are not the same in an earlier tree. -/
def changesSince (tree earlier : FileTree) : List (List String × Node) :=
  let before := earlier.inside
  tree.inside.filter fun entry => before.lookup entry.1 != some entry.2

end FileTree

end GameShelf
