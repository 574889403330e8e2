import GameShelf.CommandLine.Arguments
import GameShelf.CommandLine.Environment
import GameShelf.CommandLine.Failure
import GameShelf.Files.Task
import GameShelf.Session.Basic
import GameShelf.Settings.File

namespace GameShelf

/-- How a run speaks: the style of views, and how much it says. -/
structure Voice where
  style : Style
  quiet : Bool
  verbose : Bool

namespace Run

/-- A task that may fail. -/
abbrev Step (α : Type) :=
  ExceptT Failure Task α

def attempt {α : Type} (task : Task (Except FileError α)) (words : FileError → String) : Step α :=
  ExceptT.mk do
    match ← task with
    | .ok value => pure (.ok value)
    | .error error => pure (.error (.settings (words error)))

def settingsPath (environment : Environment) : Step String :=
  match environment.settingsPath? with
  | some path => pure path
  | none => throw (.settings "Could not determine config directory")

def loadSettings (environment : Environment) : Step Settings := do
  let path ← settingsPath environment
  if ← Task.isThere path then
    match Settings.ofFile (← Task.read path) with
    | .ok settings => pure settings
    | .error message => throw (.settings message)
  else pure .default

def makeSettingsDirectory (path : String) : Step Unit :=
  attempt (Task.prepare path) fun error => "Failed to create config directory: " ++ error.message

def saveSettings (environment : Environment) (settings : Settings) : Step Unit := do
  let path ← settingsPath environment
  makeSettingsDirectory path
  attempt (Task.write path settings.text) fun error =>
    "Failed to write config: " ++ error.message

/-- The path of the catalog: from the options, the settings, or the user's data. -/
def catalogPath (environment : Environment) (given : Option String) (settings : Settings) :
    Except Failure String :=
  match (given.or settings.catalog).or environment.catalogPath? with
  | some path => .ok path
  | none => .error (.catalog .noDataDirectory)

def loadGames (environment : Environment) (given : Option String) (settings : Settings) :
    Step (List Game) := do
  let path ← catalogPath environment given settings
  match Catalog.ofFile path (← Task.read path) with
  | .ok games => pure games
  | .error error => throw (.catalog error)

/-- Prints one line. -/
def sayLine (text : String) : Task Unit :=
  Task.say (text ++ "\n")

/-- Prints a JSON document, or else what a text says if that is not held back. -/
def sayAs (voice : Voice) (json : Json) (text : String) : Task Unit :=
  if voice.style.json then sayLine json.prettyText
  else if voice.quiet then pure ()
  else Task.say text

/-- The one-shot filter: what it prints, and what it complains of. -/
def filterTexts (voice : Voice) (planner : Planner) (expression : String) (order : SortOrder)
    (limit : Option Nat) : String × String :=
  let (planner, errors) := planner.addFilters expression
  let rejected := errors.map ClauseError.message
  let view := planner.view order
  let games := match limit with
    | some n => view.take n
    | none => view
  let shown := Session.viewText voice.style planner games rejected
  if voice.style.json then (shown, "")
  else
    let clauses := if voice.verbose then Display.clausesLine planner.activeTexts else ""
    (if voice.quiet then "" else clauses ++ shown, Session.ignoredText voice.style rejected)

def filter (voice : Voice) (games : List Game) (settings : Settings) (expression : String)
    (sort : Option String) (descending : Bool) (limit : Option Nat) : Task Unit := do
  let order := SortOrder.resolve sort descending settings.sortOrder
  let (output, complaints) := filterTexts voice (.ofGames games) expression order limit
  Task.warn complaints
  Task.say output

/-- The lines of the input, each text or not. Their line feeds are dropped; a carriage return
before one is white space to the reader of commands. -/
def inputLines (input : ByteArray) : List (Option String) :=
  let lines := input.data.toList.splitOn 10
  let lines := if lines.getLast? = some [] then lines.dropLast else lines
  lines.map fun line => String.fromUTF8? ⟨line.toArray⟩

def warnShortlist (colors : Bool) (error : ShortlistError) : Task Unit :=
  Task.warn (Ink.red.paintIf colors error.message ++ "\n")

/-- Runs the lines of a session up to the first that leaves or is no text. -/
def session (style : Style) (session : Session) : List (Option String) → Step Unit
  | [] => pure ()
  | none :: _ => throw (.stream FileError.notText.message)
  | some line :: lines =>
    match Command.parse line with
    | .error error => do
      Task.warn (error.message ++ "\n")
      Run.session style session lines
    | .ok command =>
      match session.answer style command with
      | .shown session text => do
        Task.say text
        Run.session style session lines
      | .failed session error => do
        warnShortlist style.colors error
        Run.session style session lines
      | .save path content text => do
        match ← Task.write path content with
        | .ok () => Task.say text
        | .error error => warnShortlist style.colors (.saveFailed path error.message)
        Run.session style session lines
      | .leave => pure ()

def shell (voice : Voice) (games : List Game) (settings : Settings) : Step Unit := do
  let input ← Task.input
  session voice.style (.start games settings.sortOrder settings.savePath) (inputLines input)

def listFields (voice : Voice) : Task Unit :=
  sayAs voice Display.columnsJson (Display.columnsTable voice.style.colors)

/-- A line with a setting, if it is set. -/
def settingLine (name : String) (value : Option String) : String :=
  match value with
  | none => ""
  | some value => "  " ++ name ++ ": " ++ value ++ "\n"

def truthText (value : Bool) : String :=
  String.ofList (Json.boolText value)

def heading (colors : Bool) : String :=
  Ink.bold.paintIf colors (Ink.green.paintIf colors "Configuration") ++ "\n\n"

/-- The settings in words. -/
def settingsText (colors there : Bool) (path : String) (settings : Settings) : String :=
  heading colors ++ "File: " ++ path ++ "\n" ++ "Exists: " ++ truthText there ++ "\n\n" ++
    if there then
      "Settings:\n" ++ settingLine "catalog" settings.catalog ++
        "\n[sort]\n" ++ settingLine "field" settings.sortField ++
        settingLine "ascending" (settings.sortAscending.map truthText) ++
        "\n[output]\n" ++ settingLine "color" (settings.outputColor.map truthText) ++
        "\n[list]\n" ++ settingLine "path" settings.listPath
    else "(No config file exists. Run 'bgp config edit' to create one.)\n"

def configShow (environment : Environment) (voice : Voice) : Step Unit := do
  let settings ← loadSettings environment
  let path ← settingsPath environment
  let there ← Task.isThere path
  sayAs voice
    (.ofMembers [("config", settings.toJson), ("exists", .bool there), ("path", .ofString path)])
    (settingsText voice.style.colors there path settings)

def configEdit (environment : Environment) (voice : Voice) : Step Unit := do
  let path ← settingsPath environment
  makeSettingsDirectory path
  if !(← Task.isThere path) then
    attempt (Task.write path Settings.template) fun error =>
      "Failed to create config file: " ++ error.message
    if !voice.quiet && !voice.style.json then
      Task.warn ("Created default config at: " ++ path ++ "\n")
  let editor := environment.editor
  let succeeds ← attempt (Task.launch (environment.programPaths editor)) fun error =>
    "Failed to open editor '" ++ editor ++ "': " ++ error.message
  if voice.style.json || voice.quiet || succeeds then
    sayAs voice
      (.ofMembers [("editor", .ofString editor), ("path", .ofString path),
        ("status", .ofString (if succeeds then "success" else "error"))])
      "Config saved.\n"
  else Task.warn "Editor exited with error\n"

def configSet (environment : Environment) (voice : Voice) (key value : String) : Step Unit := do
  let settings ← loadSettings environment
  let path ← settingsPath environment
  match settings.set key value with
  | .error error => throw (.settings error.message)
  | .ok settings =>
    saveSettings environment settings
    sayAs voice
      (.ofMembers [("key", .ofString key), ("path", .ofString path),
        ("status", .ofString "success"), ("value", .ofString value)])
      ("Set " ++ key ++ " = " ++ value ++ "\n")

def configPath (environment : Environment) (voice : Voice) : Step Unit := do
  let path ← settingsPath environment
  let there ← Task.isThere path
  if voice.style.json then
    sayLine (Json.ofMembers [("exists", .bool there), ("path", .ofString path)]).prettyText
  else sayLine path

/-- A line that teaches a shell the commands of the program. -/
def completionLine (shell : String) : String :=
  let words := " ".intercalate (CommandLine.Level.program.commands.map Prod.fst)
  if shell = "fish" then "complete -c bgp -f -a '" ++ words ++ "'"
  else if shell = "powershell" then
    "Register-ArgumentCompleter -Native -CommandName bgp -ScriptBlock \x7b -split '" ++ words ++
      "' \x7d"
  else if shell = "zsh" then "compctl -k '(" ++ words ++ ")' bgp"
  else "complete -W '" ++ words ++ "' bgp"

def action (environment : Environment) (invocation : CommandLine.Invocation)
    (settings : Settings) : Step Unit := do
  let colors := environment.colors invocation.noColor settings
  let voice : Voice := ⟨⟨invocation.json, colors⟩, invocation.quiet, invocation.verbose⟩
  match invocation.action with
  | .filter expression sort descending limit =>
    let games ← loadGames environment invocation.catalog settings
    filter voice games settings expression sort descending limit
  | .shell =>
    let games ← loadGames environment invocation.catalog settings
    shell voice games settings
  | .listFields => listFields voice
  | .configShow => configShow environment voice
  | .configEdit => configEdit environment voice
  | .configSet key value => configSet environment voice key value
  | .configPath => configPath environment voice
  | .completions shell => sayLine (completionLine shell)

/-- Settings that cannot be read count as the defaults. -/
def settingsOrDefault (environment : Environment) : Task Settings := do
  match ← (loadSettings environment).run with
  | .ok settings => pure settings
  | .error _ => pure .default

def invoke (environment : Environment) (invocation : CommandLine.Invocation) : Task UInt8 := do
  let settings ← settingsOrDefault environment
  match ← (action environment invocation settings).run with
  | .ok () => pure 0
  | .error failure => do
    Task.warn (failure.report invocation.json)
    pure failure.exitStatus

def usage : String :=
  "Usage: bgp [OPTIONS] [COMMAND]\n"

end Run

/-- A run of the program with these arguments. Its value is the exit status. -/
def run (environment : Environment) (arguments : List String) : Task UInt8 :=
  match CommandLine.read (environment.get? "BGP_CATALOG") arguments with
  | .ok invocation => Run.invoke environment invocation
  | .error .help => do
    Task.say Run.usage
    pure 0
  | .error .usage => do
    Task.warn Run.usage
    pure 2

end GameShelf
