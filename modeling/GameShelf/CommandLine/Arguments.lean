import GameShelf.CommandLine.Level
import GameShelf.Text.Digits
import GameShelf.Text.Splitting

namespace GameShelf.CommandLine

/-- What one level was given. -/
structure Marks where
  flags : List Flag
  catalog : Option String
  sort : Option String
  limit : Option Nat
  words : List String

/-- What is not settled yet at the end of an argument. A value that is an argument of its own is
looked at only when the next argument of its level comes, or the end; a command behind it comes
first, and so does the help on one. -/
inductive Pending
  | nothing
  | option (setting : Setting)
  | value (setting : Setting) (text : List Char)
  | word (text : String)

/-- Why the arguments do not lead to a command: help or the version was asked for, or they make no
sense. -/
inductive Stop
  | help
  | usage
deriving DecidableEq

namespace Marks

def none : Marks :=
  ⟨[], .none, .none, .none, []⟩

/-- A flag can be given once. -/
def raise (marks : Marks) (flag : Flag) : Except Stop Marks :=
  if marks.flags.contains flag then .error .usage
  else .ok { marks with flags := flag :: marks.flags }

/-- A count, perhaps with a plus sign in front. -/
def readLimit? (text : List Char) : Option Nat :=
  match text with
  | '+' :: digits => readWord? digits
  | digits => readWord? digits

/-- A setting can be given once. The catalog cannot be the empty path. -/
def assign (marks : Marks) (setting : Setting) (value : List Char) : Except Stop Marks :=
  match setting with
  | .catalog =>
    if marks.catalog.isSome || value.isEmpty then .error .usage
    else .ok { marks with catalog := some (String.ofList value) }
  | .sort =>
    if marks.sort.isSome then .error .usage
    else .ok { marks with sort := some (String.ofList value) }
  | .limit =>
    match marks.limit, readLimit? value with
    | .none, some n => .ok { marks with limit := some n }
    | _, _ => .error .usage

def addWord (marks : Marks) (level : Level) (word : String) : Except Stop Marks :=
  if level.admitsWord word then .ok { marks with words := marks.words ++ [word] }
  else .error .usage

end Marks

/-- A level with what it was given so far. -/
structure Stage where
  level : Level
  marks : Marks
  pending : Pending

namespace Stage

def start (level : Level) : Stage :=
  ⟨level, .none, .nothing⟩

/-- Looks at what is pending. An option cannot do without its value. -/
def settle (stage : Stage) : Except Stop Marks :=
  match stage.pending with
  | .nothing => .ok stage.marks
  | .option _ => .error .usage
  | .value setting text => stage.marks.assign setting text
  | .word text => stage.marks.addWord stage.level text

/-- Settles what is pending, and leaves something else to be settled. -/
def await (stage : Stage) (pending : Pending) : Except Stop Stage :=
  stage.settle.map fun marks => ⟨stage.level, marks, pending⟩

/-- Settles what is pending, and gives the level a flag. -/
def raise (stage : Stage) (flag : Flag) : Except Stop Stage := do
  let marks ← (← stage.settle).raise flag
  pure ⟨stage.level, marks, .nothing⟩

/-- Settles what is pending, and gives the level a setting. -/
def assign (stage : Stage) (setting : Setting) (value : List Char) : Except Stop Stage := do
  let marks ← (← stage.settle).assign setting value
  pure ⟨stage.level, marks, .nothing⟩

/-- The help, unless what is pending makes no sense. -/
def help (stage : Stage) : Stop :=
  match stage.settle with
  | .ok _ => .help
  | .error stop => stop

/-- A word. A level takes only so many. -/
def readWord (stage : Stage) (word : String) : Except Stop Stage := do
  let stage ← stage.await (.word word)
  if stage.marks.words.length < stage.level.maxWords then pure stage else .error .usage

/-- A row of one-letter options behind a single dash. What follows the letter of a setting is its
value. -/
def readShort (stage : Stage) : List Char → Except Stop Stage
  | [] => .ok stage
  | c :: rest =>
    if c = 'h' || c = 'V' then .error stage.help
    else match stage.level.shortFlag? c, stage.level.shortSetting? c with
      | some flag, _ =>
        match stage.raise flag with
        | .ok stage => stage.readShort rest
        | .error stop => .error stop
      | none, some setting =>
        match rest with
        | [] => stage.await (.option setting)
        | '=' :: value => stage.assign setting value
        | value => stage.assign setting value
      | none, none => .error .usage

/-- A named option behind two dashes, perhaps with a value behind an equals sign. -/
def readLong (stage : Stage) (text : List Char) : Except Stop Stage :=
  let (name, value) := match Text.splitFirst ['='] text with
    | some (name, value) => (String.ofList name, some value)
    | none => (String.ofList text, none)
  match stage.level.longFlag? name, stage.level.longSetting? name, value with
  | some flag, _, none => stage.raise flag
  | some _, _, some _ => .error .usage
  | none, some setting, some value => stage.assign setting value
  | none, some setting, none => stage.await (.option setting)
  | none, none, none =>
    .error (if name = "help" || name = "version" then stage.help else .usage)
  | none, none, some _ => .error .usage

/-- One argument that begins with a dash and is not a dash alone. -/
def readOption (stage : Stage) (text : List Char) : Except Stop Stage :=
  match text with
  | '-' :: '-' :: rest => stage.readLong rest
  | rest => stage.readShort (rest.drop 1)

end Stage

/-- Whether an argument is an option. -/
def isOption (argument : String) : Bool :=
  argument.toList.head? = some '-' && argument != "-"

/-- The help on a command, given by the names that lead to it. -/
def readHelp (level : Level) : List String → Stop
  | [] => .help
  | name :: names =>
    match level.commands.lookup name with
    | some level => readHelp level names
    | none => if name = "help" && !level.commands.isEmpty && names.isEmpty then .help else .usage

/-- The levels that arguments go through, the innermost first. `escaped` says that two dashes came
before, after which all arguments are words. -/
def readArguments (above : List Stage) (stage : Stage) (escaped : Bool) :
    List String → Except Stop (List Stage)
  | [] => .ok (stage :: above)
  | argument :: rest =>
    let word := fun _ : Unit =>
      match stage.readWord argument with
      | .ok stage => readArguments above stage escaped rest
      | .error stop => .error stop
    match stage.pending with
    | .option setting =>
      if isOption argument then .error .usage
      else
        readArguments above ⟨stage.level, stage.marks, .value setting argument.toList⟩ escaped rest
    | _ =>
      if escaped then word ()
      else match stage.level.commands.lookup argument with
        | some inner => readArguments (stage :: above) (.start inner) false rest
        | none =>
          if argument = "help" && !stage.level.commands.isEmpty then
            .error (readHelp stage.level rest)
          else if argument = "--" then readArguments above stage true rest
          else if isOption argument then
            match stage.readOption argument.toList with
            | .ok stage => readArguments above stage escaped rest
            | .error stop => .error stop
          else word ()

/-- What the program is to do. -/
inductive Action
  | filter (expression : String) (sort : Option String) (descending : Bool) (limit : Option Nat)
  | shell
  | listFields
  | configShow
  | configEdit
  | configSet (key value : String)
  | configPath
  | completions (shell : String)
deriving DecidableEq

/-- An action with the options that all levels share. -/
structure Invocation where
  verbose : Bool
  quiet : Bool
  json : Bool
  noColor : Bool
  catalog : Option String
  action : Action
deriving DecidableEq

/-- The action of the innermost level. -/
def action? (level : Level) (marks : Marks) : Option Action :=
  match level, marks.words with
  | .program, _ => some .shell
  | .filter, words =>
    some (.filter (words.headD "") marks.sort (marks.flags.contains .descending) marks.limit)
  | .shell, _ => some .shell
  | .listFields, _ => some .listFields
  | .config, _ => some .configShow
  | .configShow, _ => some .configShow
  | .configEdit, _ => some .configEdit
  | .configSet, [key, value] => some (.configSet key value)
  | .configSet, _ => none
  | .configPath, _ => some .configPath
  | .completions, [shell] => some (.completions shell)
  | .completions, _ => none

/-- Whether what a level was given can stand together. A catalog from the environment counts for
every level without one, and cannot be the empty path. -/
def isSound (environment : Option String) (marks : Marks) : Bool :=
  !(marks.flags.contains .verbose && marks.flags.contains .quiet) &&
    (marks.catalog.isSome || environment != some "")

/-- Puts the levels together. The innermost catalog counts, and the environment only if there is
none. -/
def invocation? (environment : Option String) (levels : List (Level × Marks)) :
    Option Invocation :=
  match levels with
  | [] => none
  | (level, marks) :: _ =>
    let given := fun flag => levels.any (·.2.flags.contains flag)
    if levels.all fun entry => isSound environment entry.2 then
      (action? level marks).map fun action => {
        verbose := given .verbose
        quiet := given .quiet
        json := given .json
        noColor := given .noColor
        catalog := (levels.findSome? (·.2.catalog)).or environment
        action := action }
    else none

/-- Reads the arguments. `environment` is the catalog that the environment names. -/
def read (environment : Option String) (arguments : List String) : Except Stop Invocation := do
  let stages ← readArguments [] (.start .program) false arguments
  let levels ← stages.mapM fun stage => stage.settle.map (stage.level, ·)
  match invocation? environment levels with
  | some invocation => pure invocation
  | none => .error .usage

end GameShelf.CommandLine
