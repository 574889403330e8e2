import GameShelf.SortOrder

namespace GameShelf

structure Settings where
  catalog : Option String
  sortField : Option String
  sortAscending : Option Bool
  outputColor : Option Bool
  listPath : Option String
deriving DecidableEq

/-- Why a setting was not changed. -/
inductive SettingError
  | unknownKey (key : String)
  | unknownColumn (value : String)
  | notTruth (value : String)
deriving DecidableEq

namespace Settings

def default : Settings :=
  ⟨none, none, none, none, none⟩

instance : Inhabited Settings :=
  ⟨default⟩

/-- The order of views. An unknown column sorts by name ascending. -/
def sortOrder (settings : Settings) : SortOrder :=
  let ascending := settings.sortAscending.getD true
  match settings.sortField with
  | some title => .ofTitle title ascending
  | none => ⟨.name, ascending⟩

/-- Where the list is saved if no path is given. -/
def savePath (settings : Settings) : String :=
  settings.listPath.getD "games_list.txt"

/-- The names of the settings. -/
inductive Key
  | catalog
  | sortField
  | sortAscending
  | outputColor
  | listPath
deriving DecidableEq

namespace Key

def all : List Key :=
  [catalog, sortField, sortAscending, outputColor, listPath]

def name : Key → String
  | catalog => "catalog"
  | sortField => "sort.field"
  | sortAscending => "sort.ascending"
  | outputColor => "output.color"
  | listPath => "list.path"

def ofName? (text : String) : Option Key :=
  all.find? (·.name == text)

end Key

/-- The truth value that a word stands for, in any letter case. -/
def truth? (text : String) : Option Bool :=
  let word := Text.lower text
  if ["true", "yes", "1", "on"].contains word then some true
  else if ["false", "no", "0", "off"].contains word then some false
  else none

def readTruth (text : String) : Except SettingError Bool :=
  match truth? text with
  | some value => .ok value
  | none => .error (.notTruth text)

def readColumn (text : String) : Except SettingError Column :=
  match Column.ofTitle? text with
  | some column => .ok column
  | none => .error (.unknownColumn text)

/-- Changes one setting. A column is kept by its title. -/
def assign (settings : Settings) (key : Key) (value : String) : Except SettingError Settings :=
  match key with
  | .catalog => .ok { settings with catalog := some value }
  | .sortField => (readColumn value).map fun column =>
    { settings with sortField := some column.title }
  | .sortAscending => (readTruth value).map fun truth =>
    { settings with sortAscending := some truth }
  | .outputColor => (readTruth value).map fun truth => { settings with outputColor := some truth }
  | .listPath => .ok { settings with listPath := some value }

/-- Changes the setting with this name. -/
def set (settings : Settings) (key value : String) : Except SettingError Settings :=
  match Key.ofName? key with
  | some key => settings.assign key value
  | none => .error (.unknownKey key)

end Settings

def SettingError.message : SettingError → String
  | unknownKey key =>
    "Unknown config key '" ++ key ++ "'. Valid keys: " ++
      ", ".intercalate (Settings.Key.all.map Settings.Key.name)
  | unknownColumn value =>
    "Invalid sort.field value '" ++ value ++ "'. Valid values: " ++
      ", ".intercalate (Column.all.map Column.title)
  | notTruth value =>
    "Invalid boolean value '" ++ value ++ "'. Use true/false, yes/no, 1/0, or on/off"

end GameShelf
