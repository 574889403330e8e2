import GameShelf.Files.FileTree
import GameShelf.Files.Task

namespace GameShelf

/-- The surroundings of a task: the files, what is left to read, and what was written. -/
structure World where
  files : FileTree
  input : ByteArray
  output : String
  errors : String

namespace World

/-- Prints a text. -/
def say (world : World) (text : String) : World :=
  { world with output := world.output ++ text }

/-- Prints a text on the stream for complaints. -/
def warn (world : World) (text : String) : World :=
  { world with errors := world.errors ++ text }

/-- Takes all that is left of the input. -/
def takeInput (world : World) : ByteArray × World :=
  (world.input, { world with input := .empty })

/-- Reads a file. The device of the input leads to what is left of it. -/
def read (world : World) (path : String) : Except FileError ByteArray × World :=
  match world.files.find path with
  | .ok (.device .input) => let (input, world) := world.takeInput; (.ok input, world)
  | _ => (world.files.read path, world)

/-- Writes a file. What is written to the devices of the streams is printed. -/
def write (world : World) (path content : String) : Except FileError Unit × World :=
  match world.files.write path content.toUTF8 with
  | .error error => (.error error, world)
  | .ok files =>
    match world.files.find path with
    | .ok (.device .output) => (.ok (), world.say content)
    | .ok (.device .errors) => (.ok (), world.warn content)
    | _ => (.ok (), { world with files := files })

/-- Creates one directory. -/
def makeDirectory (world : World) (path : String) : Except FileError Unit × World :=
  match world.files.makeDirectory path with
  | .error error => (.error error, world)
  | .ok files => (.ok (), { world with files := files })

end World

namespace Task

def perform {α : Type} (task : Task α) (world : World) : α × World :=
  match task with
  | done value => (value, world)
  | readFile path next =>
    let (content, world) := world.read path
    (next content).perform world
  | fileExists path next => (next (world.files.exists? path)).perform world
  | directoryExists path next => (next (world.files.isDirectory path)).perform world
  | writeFile path content next =>
    let (result, world) := world.write path content
    (next result).perform world
  | createDirectory path next =>
    let (result, world) := world.makeDirectory path
    (next result).perform world
  | startProgram path next => (next (world.files.launch path)).perform world
  | readInput next =>
    let (input, world) := world.takeInput
    (next input).perform world
  | print text next => next.perform (world.say text)
  | complain text next => next.perform (world.warn text)

theorem perform_bind {α β : Type} (task : Task α) (rest : α → Task β) (world : World) :
    (task.bind rest).perform world =
      (rest (task.perform world).1).perform (task.perform world).2 := by
  induction task generalizing world with
  | done value => rfl
  | readFile path next ih => exact ih _ _
  | fileExists path next ih => exact ih _ _
  | directoryExists path next ih => exact ih _ _
  | writeFile path content next ih => exact ih _ _
  | createDirectory path next ih => exact ih _ _
  | startProgram path next ih => exact ih _ _
  | readInput next ih => exact ih _ _
  | print text next ih => exact ih _
  | complain text next ih => exact ih _

end Task

end GameShelf
