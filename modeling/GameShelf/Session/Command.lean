import GameShelf.Text.Blank
import GameShelf.Text.Lowercase

namespace GameShelf

inductive Command
  | empty
  | filter (expression : String)
  | sort (column : String) (descending : Bool)
  | view
  | filters
  | reset
  | columns
  | listAdd (selection : String)
  | listRemove (selection : String)
  | listShow
  | listCount
  | listClear
  | listSave (path : Option String)
  | help
  | exit
deriving DecidableEq

/-- Why a line is no command. -/
inductive CommandError
  | unknownCommand (word : String)
  | missingArgument (command : String)
  | invalidDirection (text : String)
deriving DecidableEq

def CommandError.message : CommandError → String
  | unknownCommand word => "unknown command '" ++ word ++ "'. Type 'help' for a list of commands"
  | missingArgument command => "'" ++ command ++ "' needs an argument"
  | invalidDirection text => "unknown sort direction '" ++ text ++ "'. Use asc or desc"

namespace Command

/-- What the first word of a line can ask for. -/
inductive Verb
  | filter
  | sort
  | view
  | filters
  | reset
  | columns
  | list
  | help
  | exit
deriving DecidableEq

/-- What the word after `list` can ask for. -/
inductive ListVerb
  | add
  | remove
  | view
  | count
  | clear
  | save
deriving DecidableEq

def verbs : List (String × Verb) :=
  [("filter", .filter), ("f", .filter), ("sort", .sort), ("show", .view), ("ls", .view),
    ("filters", .filters), ("reset", .reset), ("fields", .columns), ("list", .list),
    ("help", .help), ("?", .help), ("exit", .exit), ("quit", .exit), ("q", .exit)]

def listVerbs : List (String × ListVerb) :=
  [("", .view), ("show", .view), ("add", .add), ("remove", .remove), ("rm", .remove),
    ("count", .count), ("clear", .clear), ("save", .save)]

/-- Whether the direction after a column is descending. None given means ascending. -/
def descending? (text : String) : Option Bool :=
  let word := Text.lower text
  if word = "" || word = "asc" then some false
  else if word = "desc" then some true
  else none

/-- The command `sort` with its arguments. -/
def parseSort (rest : List Char) : Except CommandError Command :=
  let (column, direction) := Text.splitWord rest
  if column.isEmpty then .error (.missingArgument "sort")
  else match descending? (String.ofList direction) with
    | some descending => .ok (.sort (String.ofList column) descending)
    | none => .error (.invalidDirection (String.ofList direction))

/-- A command of the list that picks games. -/
def parseSelection (name : String) (command : String → Command) (argument : List Char) :
    Except CommandError Command :=
  if argument.isEmpty then .error (.missingArgument name)
  else .ok (command (String.ofList argument))

/-- The command `list` with its arguments. -/
def parseList (rest : List Char) : Except CommandError Command :=
  let (word, argument) := Text.splitWord rest
  let verb := Text.lower (String.ofList word)
  match listVerbs.lookup verb with
  | some .view => .ok .listShow
  | some .add => parseSelection "list add" .listAdd argument
  | some .remove => parseSelection "list remove" .listRemove argument
  | some .count => .ok .listCount
  | some .clear => .ok .listClear
  | some .save =>
    .ok (.listSave (if argument.isEmpty then none else some (String.ofList argument)))
  | none => .error (.unknownCommand ("list " ++ verb))

/-- Reads a line. Its first word, in any letter case, says what to do; the rest is the argument and
is kept as written. -/
def parse (line : String) : Except CommandError Command :=
  let text := Text.trimmed line.toList
  if text.isEmpty then .ok .empty
  else
    let (word, rest) := Text.splitWord text
    match verbs.lookup (Text.lower (String.ofList word)) with
    | some .filter => .ok (.filter (String.ofList rest))
    | some .sort => parseSort rest
    | some .view => .ok .view
    | some .filters => .ok .filters
    | some .reset => .ok .reset
    | some .columns => .ok .columns
    | some .list => parseList rest
    | some .help => .ok .help
    | some .exit => .ok .exit
    | none => .error (.unknownCommand (String.ofList word))

end Command

end GameShelf
