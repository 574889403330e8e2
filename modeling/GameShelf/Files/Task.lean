import GameShelf.Files.FileError
import GameShelf.Files.Path

namespace GameShelf

/-- A program that uses files, other programs and the standard streams, as a tree of requests, each
with what to do next for every answer. It can be performed in a `World` or for real. -/
inductive Task (α : Type)
  | done (value : α)
  | readFile (path : String) (next : Except FileError ByteArray → Task α)
  | fileExists (path : String) (next : Bool → Task α)
  | directoryExists (path : String) (next : Bool → Task α)
  | writeFile (path content : String) (next : Except FileError Unit → Task α)
  | createDirectory (path : String) (next : Except FileError Unit → Task α)
  | startProgram (path : String) (next : Except FileError Bool → Task α)
  | readInput (next : ByteArray → Task α)
  | print (text : String) (next : Task α)
  | complain (text : String) (next : Task α)

namespace Task

def bind {α β : Type} (task : Task α) (rest : α → Task β) : Task β :=
  match task with
  | done value => rest value
  | readFile path next => readFile path fun content => (next content).bind rest
  | fileExists path next => fileExists path fun found => (next found).bind rest
  | directoryExists path next => directoryExists path fun found => (next found).bind rest
  | writeFile path content next => writeFile path content fun result => (next result).bind rest
  | createDirectory path next => createDirectory path fun result => (next result).bind rest
  | startProgram path next => startProgram path fun result => (next result).bind rest
  | readInput next => readInput fun input => (next input).bind rest
  | print text next => print text (next.bind rest)
  | complain text next => complain text (next.bind rest)

instance : Monad Task where
  pure := done
  bind := bind

def read (path : String) : Task (Except FileError ByteArray) :=
  readFile path done

def isThere (path : String) : Task Bool :=
  fileExists path done

def isDirectory (path : String) : Task Bool :=
  directoryExists path done

def write (path content : String) : Task (Except FileError Unit) :=
  writeFile path content done

def makeDirectory (path : String) : Task (Except FileError Unit) :=
  createDirectory path done

/-- Starts a program, and tells whether it succeeds. -/
def start (path : String) : Task (Except FileError Bool) :=
  startProgram path done

def input : Task ByteArray :=
  readInput done

def say (text : String) : Task Unit :=
  print text (done ())

def warn (text : String) : Task Unit :=
  complain text (done ())

/-- Creates a directory. It does not matter if it is there already. -/
def ensureDirectory (path : String) : Task (Except FileError Unit) := do
  match ← makeDirectory path with
  | .ok () => pure (.ok ())
  | .error error => if ← isDirectory path then pure (.ok ()) else pure (.error error)

/-- Creates the first of some directories, each of which is in the next one, and those of the
others that are missing. The empty path needs no directory. After a failure, what was created
before it stays. -/
def ensureDirectories : List String → Task (Except FileError Unit)
  | [] => pure (.ok ())
  | path :: above => do
    if path.isEmpty then pure (.ok ())
    else
      match ← ensureDirectory path with
      | .error .notFound =>
        match ← ensureDirectories above with
        | .ok () => ensureDirectory path
        | .error error => pure (.error error)
      | result => pure result

/-- Creates the directory that a file is to stand in, and the missing ones above it. -/
def prepare (path : String) : Task (Except FileError Unit) :=
  ensureDirectories (Path.parents path)

/-- Starts the first of some programs that can be started. If none can be, the error is the last
one, unless a program is there that may not be started. -/
def startFirst (error : FileError) : List String → Task (Except FileError Bool)
  | [] => pure (.error error)
  | path :: paths => do
    match ← start path with
    | .error .permissionDenied => startFirst .permissionDenied paths
    | .error .notFound =>
      startFirst (if error = .permissionDenied then error else .notFound) paths
    | .error .notDirectory =>
      startFirst (if error = .permissionDenied then error else .notDirectory) paths
    | result => pure result

/-- Starts the first of some programs that can be started, and tells whether it succeeds. -/
def launch (paths : List String) : Task (Except FileError Bool) :=
  startFirst .notFound paths

end Task

end GameShelf
