namespace GameShelf.CommandLine

inductive Level
  | program
  | filter
  | shell
  | listFields
  | config
  | configShow
  | configEdit
  | configSet
  | configPath
  | completions
deriving DecidableEq

/-- An option that is given or not. -/
inductive Flag
  | verbose
  | quiet
  | json
  | noColor
  | descending
deriving DecidableEq

/-- An option with a value. -/
inductive Setting
  | catalog
  | sort
  | limit
deriving DecidableEq

namespace Level

/-- The commands of a level by their names. -/
def commands : Level → List (String × Level)
  | program =>
    [("filter", filter), ("f", filter), ("shell", shell), ("sh", shell),
      ("list-fields", listFields), ("fields", listFields), ("config", config),
      ("completions", completions)]
  | config =>
    [("show", configShow), ("edit", configEdit), ("set", configSet), ("path", configPath)]
  | _ => []

/-- How many words a level takes at most. -/
def maxWords : Level → Nat
  | filter => 1
  | configSet => 2
  | completions => 1
  | _ => 0

/-- The shells with completions. -/
def shells : List String :=
  ["bash", "zsh", "fish", "powershell"]

/-- Whether a word can stand at a level. Most take any. -/
def admitsWord (level : Level) (word : String) : Bool :=
  level != completions || shells.contains word

def longFlag? (level : Level) (name : String) : Option Flag :=
  if name = "verbose" then some .verbose
  else if name = "quiet" then some .quiet
  else if name = "json" then some .json
  else if name = "no-color" then some .noColor
  else if level = filter && name = "desc" then some .descending
  else none

def longSetting? (level : Level) (name : String) : Option Setting :=
  if name = "catalog" then some .catalog
  else if level = filter && name = "sort" then some .sort
  else if level = filter && name = "limit" then some .limit
  else none

def shortFlag? (level : Level) (c : Char) : Option Flag :=
  if c = 'v' then some .verbose
  else if c = 'q' then some .quiet
  else if level = filter && c = 'd' then some .descending
  else none

def shortSetting? (level : Level) (c : Char) : Option Setting :=
  if level = filter && c = 's' then some .sort
  else if level = filter && c = 'l' then some .limit
  else none

end Level

end GameShelf.CommandLine
