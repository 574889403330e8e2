import GameShelf.Files.Path
import GameShelf.Settings.Basic

namespace GameShelf

/-- The variables by their names, and the home directory that the system keeps for the user. -/
structure Environment where
  entries : List (String × String)
  accountHome : Option String

namespace Environment

def get? (environment : Environment) (name : String) : Option String :=
  environment.entries.lookup name

/-- The home directory. An empty name is as good as none, and then that of the account counts. -/
def home? (environment : Environment) : Option String :=
  ((environment.get? "HOME").filter (!·.isEmpty)).or environment.accountHome

/-- The file of the settings. -/
def settingsPath? (environment : Environment) : Option String :=
  match environment.get? "BGP_CONFIG" with
  | some path => some path
  | none =>
    let directory := match environment.get? "XDG_CONFIG_HOME" with
      | some directory => some (Path.join directory "bgp")
      | none => environment.home?.map fun home => Path.join (Path.join home ".config") "bgp"
    directory.map (Path.join · "config.toml")

/-- The directory of the user's data, if the user has a home. A relative name in the variable for it
does not count. -/
def dataHome? (environment : Environment) : Option String :=
  environment.home?.map fun home =>
    ((environment.get? "XDG_DATA_HOME").filter Path.isAbsolute).getD
      (Path.join home ".local/share")

/-- The catalog if nothing else names one. -/
def catalogPath? (environment : Environment) : Option String :=
  environment.dataHome?.map fun directory => Path.join (Path.join directory "bgp") "games.json"

/-- The program to edit the settings with. -/
def editor (environment : Environment) : String :=
  ((environment.get? "EDITOR").or (environment.get? "VISUAL")).getD "vi"

/-- The directories in which programs are looked for. -/
def programDirectories (environment : Environment) : List String :=
  let path := (environment.get? "PATH").getD "/bin:/usr/bin"
  (path.toList.splitOn ':').map String.ofList

/-- The paths at which a program is looked for, in turn. One with a slash in its name is looked for
only there. -/
def programPaths (environment : Environment) (name : String) : List String :=
  if name.isEmpty then []
  else if name.toList.contains '/' then [name]
  else environment.programDirectories.map (Path.join · name)

/-- Whether colours are on. The variable against them counts whatever its value. -/
def colors (environment : Environment) (noColor : Bool) (settings : Settings) : Bool :=
  !noColor && (environment.get? "NO_COLOR").isNone && settings.outputColor.getD true

end Environment

end GameShelf
