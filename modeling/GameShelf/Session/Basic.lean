import GameShelf.Display.Columns
import GameShelf.Display.Games
import GameShelf.Display.Shortlist
import GameShelf.Planner
import GameShelf.Session.Command
import GameShelf.Shortlist.Export

namespace GameShelf

/-- How views are shown. -/
structure Style where
  json : Bool
  colors : Bool
deriving DecidableEq

/-- What one command after another changes. -/
structure Session where
  planner : Planner
  list : Shortlist
  order : SortOrder
  savePath : String
deriving DecidableEq

/-- The answer to a command. `save` asks for a file to be written, after which the text is shown. -/
inductive Reply
  | shown (session : Session) (text : String)
  | failed (session : Session) (error : ShortlistError)
  | save (path content text : String)
  | leave

namespace Session

def start (games : List Game) (order : SortOrder) (savePath : String) : Session :=
  ⟨.ofGames games, .empty, order, savePath⟩

/-- The view in the current order. -/
def view (session : Session) : List Game :=
  session.planner.view session.order

def ignoredLine (reason : String) : String :=
  "Ignoring clause: " ++ reason ++ "\n"

/-- The lines of the help, each command with its purpose. -/
def helpLines : List String :=
  ["Commands:",
    "  filter <expr>             Add clauses, e.g. filter minPlayers>=2, name~=go",
    "  sort <column> [asc|desc]  Change the order of the view",
    "  show                      Show the current view",
    "  filters                   Show the active clauses",
    "  reset                     Drop every clause",
    "  fields                    List filterable columns",
    "  list add <sel>            Add from the view: all, a name, N or N-M",
    "  list remove <sel>         Remove from the list: all, a name, N or N-M",
    "  list show                 Show the list",
    "  list count                Count the listed games",
    "  list clear                Empty the list",
    "  list save [path]          Write the list to a file",
    "  help                      Show this help",
    "  exit                      Leave the shell"]

def helpText : String :=
  String.join (helpLines.map (· ++ "\n"))

/-- The text of a view, with the reasons for the clauses that were dropped. -/
def viewText (style : Style) (planner : Planner) (games : List Game) (rejected : List String) :
    String :=
  if style.json then (Display.gamesJson games planner.activeTexts rejected).prettyText ++ "\n"
  else Display.gamesTable style.colors games

/-- The lines that say which clauses were dropped. In a JSON object they are told in it. -/
def ignoredText (style : Style) (rejected : List String) : String :=
  if style.json then "" else String.join (rejected.map ignoredLine)

def showView (session : Session) (style : Style) (rejected : List String) : Reply :=
  .shown session (ignoredText style rejected ++
    viewText style session.planner session.view rejected)

/-- `Verb n. List has m.` -/
def countLine (verb : String) (changed listed : Nat) : String :=
  verb ++ " " ++ toString changed ++ ". List has " ++ toString listed ++ ".\n"

/-- The answer to a change of the list. -/
def changed (session : Session) (verb : String) : Shortlist.Change → Reply
  | (list, .error error) => .failed { session with list := list } error
  | (list, .ok n) => .shown { session with list := list } (countLine verb n list.count)

/-- Answers one command. -/
def answer (session : Session) (style : Style) : Command → Reply
  | .empty => .shown session ""
  | .filter expression =>
    let (planner, rejected) := session.planner.addFilters expression
    showView { session with planner := planner } style (rejected.map ClauseError.message)
  | .sort column descending =>
    showView { session with order := .resolve (some column) descending session.order } style []
  | .view => showView session style []
  | .filters => .shown session (Display.clausesLine session.planner.activeTexts)
  | .reset =>
    .shown { session with planner := session.planner.reset }
      ("Filters cleared (" ++ toString session.planner.games.length ++ " games).\n")
  | .columns =>
    .shown session (if style.json then Display.columnsJson.prettyText ++ "\n"
      else Display.columnsTable style.colors)
  | .listAdd selection => session.changed "Added" (session.list.addFrom selection session.view)
  | .listRemove selection => session.changed "Removed" (session.list.strike selection)
  | .listShow =>
    .shown session (if style.json then (Display.shortlistJson session.list.names).prettyText ++ "\n"
      else Display.shortlistTable style.colors session.list.names)
  | .listCount => .shown session (toString session.list.count ++ "\n")
  | .listClear =>
    if session.list.isEmpty then .shown session "Game list is already empty.\n"
    else .shown { session with list := .empty } (countLine "Removed" session.list.count 0)
  | .listSave path =>
    let path := path.getD session.savePath
    .save path session.list.text
      ("Saved " ++ toString session.list.count ++ " games to " ++ path ++ ".\n")
  | .help => .shown session helpText
  | .exit => .leave

end Session

end GameShelf
