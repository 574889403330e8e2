import GameShelf.CommandLine.Run
import GameShelf.Files.Machine

namespace GameShelf

/-- The number of an error, which some calls give with a minus sign. -/
def magnitude (code : UInt32) : UInt32 :=
  if code < 0x80000000 then code else 0 - code

/-- What an error of the system says about a file. -/
def FileError.ofSystem : IO.Error → FileError
  | .noFileOrDirectory .. => .notFound
  | .alreadyExists .. => .alreadyExists
  | .inappropriateType _ code _ => if magnitude code = 20 then .notDirectory else .isDirectory
  | .invalidArgument _ code _ => if magnitude code = 36 then .nameTooLong else .nulInName
  | .resourceExhausted _ 28 _ => .noSpace
  | .permissionDenied _ 13 _ => .permissionDenied
  | .permissionDenied _ code details => .other (details ++ " (os error " ++ toString code ++ ")")
  | error => .other (toString error)

namespace Task

/-- An action on a file, with its failure as a value. -/
def guarded {α : Type} (action : IO α) : IO (Except FileError α) := do
  match ← action.toBaseIO with
  | .ok value => pure (.ok value)
  | .error error => pure (.error (.ofSystem error))

/-- Whether an action on a file succeeds. -/
def succeeds {α : Type} (action : IO α) : IO Bool := do
  match ← guarded action with
  | .ok _ => pure true
  | .error _ => pure false

/-- Whether a program succeeds. None is started from here: the only ones that are known are those
that do nothing. -/
def startOnDisk (path : String) : IO (Except FileError Bool) := do
  match ← guarded (IO.FS.Handle.mk path .read), Machine.programOf? path with
  | .ok _, some result => pure (.ok result)
  | .ok _, none => pure (.error .permissionDenied)
  | .error error, _ => pure (.error error)

/-- All that is left on the standard input. -/
def readAllInput : IO ByteArray := do
  let stream ← IO.getStdin
  let mut input := ByteArray.empty
  repeat
    let chunk ← stream.read 65536
    if chunk.isEmpty then break
    input := input ++ chunk
  pure input

/-- Performs a task on the disk. -/
def onDisk {α : Type} : Task α → IO α
  | done value => pure value
  | readFile path next => do (next (← guarded (IO.FS.readBinFile path))).onDisk
  | fileExists path next => do (next (← succeeds (IO.FS.Handle.mk path .read))).onDisk
  | directoryExists path next => do (next (← (System.mkFilePath [path]).isDir)).onDisk
  | writeFile path content next => do (next (← guarded (IO.FS.writeFile path content))).onDisk
  | createDirectory path next => do (next (← guarded (IO.FS.createDir path))).onDisk
  | startProgram path next => do (next (← startOnDisk path)).onDisk
  | readInput next => do (next (← readAllInput)).onDisk
  | print text next => do
    let stream ← IO.getStdout
    stream.putStr text
    stream.flush
    next.onDisk
  | complain text next => do
    (← IO.getStderr).putStr text
    next.onDisk

end Task

/-- The variables that a run looks at. -/
def Environment.names : List String :=
  ["BGP_CATALOG", "BGP_CONFIG", "EDITOR", "HOME", "NO_COLOR", "PATH", "VISUAL", "XDG_CONFIG_HOME",
    "XDG_DATA_HOME"]

def Environment.ofProcess : IO Environment := do
  let entries ← names.filterMapM fun name => do
    pure ((← IO.getEnv name).map (name, ·))
  pure ⟨entries, none⟩

end GameShelf

def main (arguments : List String) : IO UInt32 := do
  let environment ← GameShelf.Environment.ofProcess
  let status ← (GameShelf.run environment arguments).onDisk
  pure status.toUInt32
