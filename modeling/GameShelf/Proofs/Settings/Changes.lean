import GameShelf.CommandLine.Run
import GameShelf.Proofs.Files.Storing
import GameShelf.Proofs.Settings.Document
import GameShelf.Proofs.Settings.Replacement

namespace GameShelf

theorem mapError_ok {α β γ : Type} (wrap : α → β) (result : γ) :
    (Except.ok result).mapError wrap = .ok result :=
  rfl

theorem mapError_error {α β γ : Type} (wrap : α → β) (error : α) :
    (Except.error error : Except α γ).mapError wrap = .error (wrap error) :=
  rfl

namespace Run

theorem perform_run_bind {α β : Type} (step : Step α) (rest : α → Step β) (world : World) :
    (step >>= rest).run.perform world =
      match (step.run.perform world).1 with
      | .ok value => (rest value).run.perform (step.run.perform world).2
      | .error failure => (.error failure, (step.run.perform world).2) := by
  rw [ExceptT.run_bind, Task.perform_seq]
  cases (step.run.perform world).1 <;> rfl

theorem perform_run_lift {α : Type} (task : Task α) (world : World) :
    (liftM task : Step α).run.perform world =
      (.ok (task.perform world).1, (task.perform world).2) :=
  Task.perform_seq task _ world

theorem perform_attempt {α : Type} (task : Task (Except FileError α)) (words : FileError → String)
    (world : World) :
    (attempt task words).run.perform world =
      ((task.perform world).1.mapError (Failure.settings ∘ words), (task.perform world).2) := by
  refine (Task.perform_seq task _ world).trans ?_
  cases (task.perform world).1 <;> rfl

theorem exists_perform_sayAs (voice : Voice) (json : Json) (text : String) (world : World) :
    ∃ output, (sayAs voice json text).perform world = ((), { world with output := output }) := by
  rw [sayAs]
  by_cases asJson : voice.style.json = true
  · rw [if_pos asJson]
    exact ⟨_, rfl⟩
  · rw [if_neg asJson]
    by_cases quiet : voice.quiet = true
    · rw [if_pos quiet]
      exact ⟨_, rfl⟩
    · rw [if_neg quiet]
      exact ⟨_, rfl⟩

/-- The settings in the file at a path, or the defaults without one. -/
def loaded (files : FileTree) (path : String) : Except Failure Settings :=
  if files.exists? path then (Settings.ofFile (files.read path)).mapError Failure.settings
  else .ok .default

section Located

variable {environment : Environment} {path : String}
  (located : environment.settingsPath? = some path)

include located

theorem settingsPath_eq : settingsPath environment = pure path := by
  rw [settingsPath, located]

theorem perform_loadSettings {world : World}
    (noDevice : ∀ kind, world.files.find path ≠ .ok (.device kind)) :
    (loadSettings environment).run.perform world = (loaded world.files path, world) := by
  have read : world.read path = (world.files.read path, world) := by
    rw [World.read]
    split
    case h_1 device => exact absurd device (noDevice .input)
    case h_2 => rfl
  simp only [loadSettings, settingsPath_eq located, perform_run_bind, perform_run_lift,
    ExceptT.run_pure, Task.perform_pure, Task.isThere, Task.read, Task.perform, loaded]
  cases there : world.files.exists? path with
  | false => rfl
  | true =>
    simp only [if_true, perform_run_bind, perform_run_lift, Task.perform, read]
    cases Settings.ofFile (world.files.read path) <;> rfl

variable {world : World} (noDevice : ∀ kind, world.files.find path ≠ .ok (.device kind))
  {name value : String}

include noDevice

theorem perform_configSet_of_error (voice : Voice)
    (fails : ∀ old new, loaded world.files path = .ok old → old.set name value ≠ .ok new) :
    ∃ failure, (configSet environment voice name value).run.perform world =
      (.error failure, world) := by
  simp only [configSet, settingsPath_eq located, perform_run_bind,
    perform_loadSettings located noDevice, ExceptT.run_pure, Task.perform_pure]
  cases loads : loaded world.files path with
  | error failure => exact ⟨failure, rfl⟩
  | ok old =>
    cases changed : old.set name value with
    | error error => exact ⟨.settings error.message, by simp only [changed]; rfl⟩
    | ok new => exact absurd changed (fails old new loads)

theorem perform_configSet_of_ok (voice : Voice) {old new : Settings}
    (loads : loaded world.files path = .ok old) (changed : old.set name value = .ok new)
    {later : FileTree} {place : List String}
    (makes : Task.Makes (Task.prepare path) world.files (.ok ()) later)
    (prepared : later.Prepared path place) :
    ∃ output, (configSet environment voice name value).run.perform world =
      (.ok (), ⟨later.put place (.file new.text.toUTF8), world.input, output, world.errors⟩) := by
  obtain ⟨files, input, output, errors⟩ := world
  simp only [configSet, saveSettings, makeSettingsDirectory, settingsPath_eq located,
    perform_run_bind, perform_loadSettings located noDevice, ExceptT.run_pure, Task.perform_pure,
    loads, changed, perform_attempt, makes.performs, mapError_ok, Task.write, Task.perform,
    prepared.world_write]
  have said := exists_perform_sayAs voice
    (.ofMembers [("key", .ofString name), ("path", .ofString path),
      ("status", .ofString "success"), ("value", .ofString value)])
    ("Set " ++ name ++ " = " ++ value ++ "\n")
    ⟨later.put place (.file new.text.toUTF8), input, output, errors⟩
  obtain ⟨printed, performed⟩ := said
  refine ⟨printed, ?_⟩
  rw [perform_run_lift, performed]

theorem exists_perform_settingsOrDefault :
    ∃ settings, (settingsOrDefault environment).perform world = (settings, world) := by
  rw [settingsOrDefault, Task.perform_seq, perform_loadSettings located noDevice]
  cases loaded world.files path with
  | error failure => exact ⟨.default, rfl⟩
  | ok settings => exact ⟨settings, rfl⟩

theorem perform_invoke_configSet (name value : String) (options : CommandLine.Invocation) :
    ∃ voice, (invoke environment { options with action := .configSet name value }).perform world =
      match (configSet environment voice name value).run.perform world with
      | (.ok (), after) => (0, after)
      | (.error failure, after) =>
        (failure.exitStatus, after.warn (failure.report options.json)) := by
  obtain ⟨settings, performed⟩ := exists_perform_settingsOrDefault located noDevice
  rw [invoke, Task.perform_seq, performed, Task.perform_seq]
  refine ⟨⟨⟨options.json, environment.colors options.noColor settings⟩, options.quiet,
    options.verbose⟩, ?_⟩
  simp only [action]
  cases performed : (configSet environment ⟨⟨options.json, environment.colors options.noColor
    settings⟩, options.quiet, options.verbose⟩ name value).run.perform world with
  | mk result after => cases result <;> rfl

end Located

end Run

/-- A run of the program that sets one setting by its name. -/
structure SettingRun where
  options : CommandLine.Invocation
  name : String
  value : String

namespace SettingRun

def task (run : SettingRun) (environment : Environment) : Task UInt8 :=
  Run.invoke environment { run.options with action := .configSet run.name run.value }

/-- The run replaces the settings `old` by the settings `new`. -/
def Replaces (run : SettingRun) (old new : Settings) : Prop :=
  ∃ key : Settings.Key, run.name = key.name ∧ old.Replaced key run.value new

/-- What a run can do to the files: nothing, if it fails, or else make the directories that are
missing and put the new document in place. -/
inductive Leads (run : SettingRun) (path : String) (files : FileTree) : FileTree → Prop
  | fails (rejects : ∀ old new, Run.loaded files path = .ok old → ¬ run.Replaces old new) :
      Leads run path files files
  | changes {old new : Settings} {later : FileTree} {place : List String}
      (loads : Run.loaded files path = .ok old) (replaces : run.Replaces old new)
      (makes : Task.Makes (Task.prepare path) files (.ok ()) later)
      (prepared : later.Prepared path place) :
      Leads run path files (later.put place (.file new.text.toUTF8))

end SettingRun

/-- The file of the settings can be written, or a directory is in its place and cannot be read. -/
def FileTree.Usable (files : FileTree) (path : String) : Prop :=
  files.Stores path ∨ files.isDirectory path = true

theorem Task.Makes.unique {path : String} {files one two : FileTree}
    {place otherPlace : List String}
    (makes : Task.Makes (Task.prepare path) files (.ok ()) one) (prepared : one.Prepared path place)
    (otherMakes : Task.Makes (Task.prepare path) files (.ok ()) two)
    (otherPrepared : two.Prepared path otherPlace) : one = two ∧ place = otherPlace := by
  have same : one = two :=
    congrArg (·.2.files)
      ((makes.performs .empty "" "").symm.trans (otherMakes.performs .empty "" ""))
  subst same
  exact ⟨rfl, Except.ok.inj (prepared.place_eq.symm.trans otherPrepared.place_eq)⟩

namespace FileTree

variable {files later : FileTree} {path : String} {place : List String}

theorem Usable.noDevice (usable : files.Usable path) (kind : Device) :
    files.find path ≠ .ok (.device kind) := by
  rcases usable with stores | directory
  · obtain ⟨later, place, makes, prepared⟩ := stores.exists_prepared
    rw [Ne, find_eq_ok_iff]
    rintro ⟨there, placed, stood, -⟩
    have same := (makes.keeps .directory).place placed
    rw [prepared.place_eq] at same
    cases same
    exact prepared.noDevice kind ((makes.keeps _).stands place stood)
  · rw [isDirectory_iff.mp directory]
    simp

theorem not_loaded_of_isDirectory (directory : files.isDirectory path = true) (old : Settings) :
    Run.loaded files path ≠ .ok old := by
  rw [isDirectory_iff] at directory
  simp [Run.loaded, exists?, FileTree.read, directory, Settings.ofFile, mapError_error]

theorem Prepared.makes (prepared : files.Prepared path place) :
    Task.Makes (Task.prepare path) files (.ok ()) files :=
  ⟨prepared.perform_prepare, (.refl · files)⟩

/-- What was written is loaded. -/
theorem Prepared.loaded_put (prepared : files.Prepared path place) (settings : Settings) :
    Run.loaded (files.put place (.file settings.text.toUTF8)) path = .ok settings := by
  simp only [Run.loaded, exists?, prepared.find_put, prepared.read_put, if_true, Settings.ofFile,
    fromUTF8?_toUTF8, Settings.read?_text, mapError_ok]

end FileTree

namespace SettingRun

variable {run : SettingRun} {path : String} {files : FileTree}

theorem Replaces.unique {old new other : Settings} (first : run.Replaces old new)
    (second : run.Replaces old other) : new = other := by
  rw [Replaces, ← Settings.set_eq_ok_iff] at first second
  exact Except.ok.inj (first.symm.trans second)

theorem Replaces.transfer {old new : Settings} (replaces : run.Replaces old new)
    (other : Settings) : ∃ changed, run.Replaces other changed := by
  obtain ⟨key, named, replaced⟩ := replaces
  obtain ⟨changed, replacedOther⟩ := replaced.transfer other
  exact ⟨changed, key, named, replacedOther⟩

theorem Leads.unique {first second : FileTree} (one : run.Leads path files first)
    (two : run.Leads path files second) : first = second := by
  cases one with
  | fails rejects =>
    cases two with
    | fails => rfl
    | changes loads replaces => exact absurd replaces (rejects _ _ loads)
  | @changes old new later place loads replaces makes prepared =>
    cases two with
    | fails rejects => exact absurd replaces (rejects _ _ loads)
    | @changes other otherNew otherLater otherPlace otherLoads otherReplaces otherMakes
        otherPrepared =>
      rw [loads] at otherLoads
      cases otherLoads
      obtain ⟨rfl, rfl⟩ := makes.unique prepared otherMakes otherPrepared
      rw [replaces.unique otherReplaces]

theorem Leads.eq_of_rejects {after : FileTree} (leads : run.Leads path files after)
    (rejects : ∀ old new, Run.loaded files path = .ok old → ¬ run.Replaces old new) :
    after = files :=
  leads.unique (.fails rejects)

theorem Leads.written {after : FileTree} (leads : run.Leads path files after) {old new : Settings}
    (loads : Run.loaded files path = .ok old) (replaces : run.Replaces old new) :
    Run.loaded after path = .ok new ∧ after.read path = .ok new.text.toUTF8 := by
  cases leads with
  | fails rejects => exact absurd replaces (rejects old new loads)
  | changes otherLoads otherReplaces makes prepared =>
    rw [loads] at otherLoads
    cases otherLoads
    rw [otherReplaces.unique replaces]
    exact ⟨prepared.loaded_put new, prepared.read_put _⟩

theorem Leads.usable {after : FileTree} (leads : run.Leads path files after)
    (usable : files.Usable path) : after.Usable path := by
  cases leads with
  | fails => exact usable
  | changes _ _ _ prepared => exact Or.inl (prepared.put _).stores

/-- The same run once more finds its own document, and writes it again. -/
theorem Leads.again {after : FileTree} (leads : run.Leads path files after) :
    run.Leads path after after := by
  cases leads with
  | fails rejects => exact .fails rejects
  | @changes old new later place loads replaces makes prepared =>
    obtain ⟨key, named, replaced⟩ := replaces
    have written := prepared.put new.text.toUTF8
    have next : run.Leads path (later.put place (.file new.text.toUTF8)) _ :=
      .changes (prepared.loaded_put new) ⟨key, named, replaced.again⟩ written.makes written
    rwa [FileTree.put_put] at next

/-- Runs that set different settings lead to the same files in either order. -/
theorem Leads.comm {first second : SettingRun} (apart : first.name ≠ second.name)
    {left right leftRight rightLeft : FileTree} (one : first.Leads path files left)
    (two : second.Leads path files right) (twoLater : second.Leads path left leftRight)
    (oneLater : first.Leads path right rightLeft) : leftRight = rightLeft := by
  cases one with
  | fails rejects =>
    have same := twoLater.unique two
    subst same
    cases two with
    | fails => exact (oneLater.unique (.fails rejects)).symm
    | @changes old new later place loads replaces makes prepared =>
      cases oneLater with
      | fails => rfl
      | changes _ replacesLater =>
        obtain ⟨changed, replacesNow⟩ := replacesLater.transfer old
        exact absurd replacesNow (rejects old changed loads)
  | @changes old new later place loads replaces makes prepared =>
    cases two with
    | fails rejects =>
      have same := oneLater.unique (.changes loads replaces makes prepared)
      subst same
      cases twoLater with
      | fails => rfl
      | changes _ replacesLater =>
        obtain ⟨changed, replacesNow⟩ := replacesLater.transfer old
        exact absurd replacesNow (rejects old changed loads)
    | @changes other otherNew otherLater otherPlace otherLoads otherReplaces otherMakes
        otherPrepared =>
      rw [loads] at otherLoads
      cases otherLoads
      obtain ⟨key, named, replaced⟩ := replaces
      obtain ⟨otherKey, otherNamed, otherReplaced⟩ := otherReplaces
      have keys : key ≠ otherKey := by
        rintro rfl
        exact apart (named.trans otherNamed.symm)
      obtain ⟨both, onLeft, onRight⟩ := replaced.diamond keys otherReplaced
      have written := prepared.put new.text.toUTF8
      have otherWritten := otherPrepared.put otherNew.text.toUTF8
      have viaLeft : second.Leads path _ _ :=
        .changes (prepared.loaded_put new) ⟨otherKey, otherNamed, onLeft⟩ written.makes written
      have viaRight : first.Leads path _ _ :=
        .changes (otherPrepared.loaded_put otherNew) ⟨key, named, onRight⟩ otherWritten.makes
          otherWritten
      obtain ⟨rfl, rfl⟩ := makes.unique prepared otherMakes otherPrepared
      rw [twoLater.unique viaLeft, oneLater.unique viaRight, FileTree.put_put, FileTree.put_put]

end SettingRun

theorem Failure.exitStatus_ne_zero (failure : Failure) : failure.exitStatus ≠ 0 := by
  fun_cases exitStatus failure <;> decide

/-- The world after some runs, one after the other. -/
def World.after (environment : Environment) (world : World) (runs : List SettingRun) : World :=
  runs.foldl (fun world run => ((run.task environment).perform world).2) world

/-- The settings that a run of the program loads. -/
def World.settings (environment : Environment) (world : World) : Except Failure Settings :=
  ((Run.loadSettings environment).run.perform world).1

section Located

variable {environment : Environment} {path : String}
  (located : environment.settingsPath? = some path)

include located

theorem World.settings_eq {world : World} (usable : world.files.Usable path) :
    world.settings environment = Run.loaded world.files path := by
  rw [settings, Run.perform_loadSettings located usable.noDevice]

/-- A run either succeeds or fails, and its status tells which. -/
theorem SettingRun.leads_of_perform {world : World} (usable : world.files.Usable path)
    (run : SettingRun) :
    run.Leads path world.files ((run.task environment).perform world).2.files ∧
      (((run.task environment).perform world).1 = 0 ↔
        ∃ old new, world.settings environment = .ok old ∧ run.Replaces old new) := by
  obtain ⟨voice, performed⟩ :=
    Run.perform_invoke_configSet located usable.noDevice run.name run.value run.options
  rw [World.settings_eq located usable, task, performed]
  by_cases taken : ∃ old new, Run.loaded world.files path = .ok old ∧ run.Replaces old new
  · obtain ⟨old, new, loads, replaces⟩ := taken
    have stores : world.files.Stores path :=
      usable.resolve_right fun directory => FileTree.not_loaded_of_isDirectory directory old loads
    obtain ⟨later, place, makes, prepared⟩ := stores.exists_prepared
    obtain ⟨output, set⟩ := Run.perform_configSet_of_ok located usable.noDevice voice loads
      (Settings.set_eq_ok_iff.mpr replaces) makes prepared
    rw [set]
    exact ⟨.changes loads replaces makes prepared, fun _ => ⟨old, new, loads, replaces⟩,
      fun _ => rfl⟩
  · have fails (old new : Settings) (loads : Run.loaded world.files path = .ok old) :
        old.set run.name run.value ≠ .ok new := fun changed =>
      taken ⟨old, new, loads, Settings.set_eq_ok_iff.mp changed⟩
    obtain ⟨failure, set⟩ :=
      Run.perform_configSet_of_error located usable.noDevice voice fails
    rw [set]
    refine ⟨.fails fun old new loads replaces => taken ⟨old, new, loads, replaces⟩, ?_⟩
    simp only [failure.exitStatus_ne_zero, taken]

theorem World.usable_after {world : World} (usable : world.files.Usable path)
    (runs : List SettingRun) : (world.after environment runs).files.Usable path := by
  induction runs generalizing world with
  | nil => exact usable
  | cons run runs ih =>
    exact ih ((SettingRun.leads_of_perform located usable run).1.usable usable)

end Located

theorem World.after_append (environment : Environment) (world : World)
    (earlier later : List SettingRun) :
    world.after environment (earlier ++ later) =
      (world.after environment earlier).after environment later :=
  List.foldl_append ..

/-- After any runs that set something, one more succeeds exactly if the settings can be loaded and
it replaces one of them. Then the settings loaded from the file are those before with that one
replaced, and they alone decide its bytes; otherwise no file is touched. Runs that set different
settings can change places, and the same run once more changes nothing. -/
theorem settings_after_runs {environment : Environment} {path : String}
    (located : environment.settingsPath? = some path) (world : World)
    (usable : world.files.Usable path) (earlier : List SettingRun) (run : SettingRun) :
    let before := world.after environment earlier
    let status := ((run.task environment).perform before).1
    let after := world.after environment (earlier ++ [run])
    (status = 0 ↔ ∃ old new, before.settings environment = .ok old ∧ run.Replaces old new) ∧
      (∀ old new, before.settings environment = .ok old → run.Replaces old new →
        after.settings environment = .ok new ∧ after.files.read path = .ok new.text.toUTF8 ∧
          (Toml.read? new.text).bind (·.lookup "version") = some (.integer 1)) ∧
      (status ≠ 0 → after.files = before.files) ∧
      (∀ other : SettingRun, other.name ≠ run.name →
        (world.after environment (earlier ++ [run, other])).files =
          (world.after environment (earlier ++ [other, run])).files) ∧
      (world.after environment (earlier ++ [run, run])).files = after.files := by
  intro before status after
  have usableBefore : before.files.Usable path := World.usable_after located usable earlier
  have usableAfter : after.files.Usable path :=
    World.usable_after located usable (earlier ++ [run])
  have leads (first : SettingRun) : first.Leads path before.files
      (world.after environment (earlier ++ [first])).files := by
    rw [World.after_append]
    exact (first.leads_of_perform located usableBefore).1
  have leadsLater (first second : SettingRun) : second.Leads path
      (world.after environment (earlier ++ [first])).files
      (world.after environment (earlier ++ [first, second])).files := by
    have usableLater := World.usable_after located usable (earlier ++ [first])
    have split : earlier ++ [first, second] = (earlier ++ [first]) ++ [second] := by simp
    rw [split, World.after_append environment world (earlier ++ [first])]
    exact (second.leads_of_perform located usableLater).1
  have outcome := (run.leads_of_perform located usableBefore).2
  have settingsBefore := World.settings_eq located usableBefore
  refine ⟨outcome, fun old new loads replaces => ?_, fun failed => ?_, fun other apart => ?_, ?_⟩
  · rw [settingsBefore] at loads
    obtain ⟨loaded, bytes⟩ := (leads run).written loads replaces
    refine ⟨(World.settings_eq located usableAfter).trans loaded, bytes, ?_⟩
    rw [Settings.toml_read?_text]
    rfl
  · refine (leads run).eq_of_rejects fun old new loads replaces => failed (outcome.mpr ?_)
    exact ⟨old, new, settingsBefore.trans loads, replaces⟩
  · exact SettingRun.Leads.comm apart.symm (leads run) (leads other) (leadsLater run other)
      (leadsLater other run)
  · exact (leadsLater run run).unique (leads run).again

/-- The first run makes the file, with the column under its own title. -/
theorem settings_after_runs_in_new_file :
    let environment : Environment := ⟨[("BGP_CONFIG", "bgp.toml")], none⟩
    let world : World := .quiet .empty
    let run : SettingRun :=
      ⟨⟨false, false, false, false, none, .listFields⟩, "sort.field", " RATING"⟩
    environment.settingsPath? = some "bgp.toml" ∧ world.files.Usable "bgp.toml" ∧
      ((run.task environment).perform world).1 = 0 ∧
      (world.after environment [run]).files.read "bgp.toml" =
        .ok "version = 1\n\n[sort]\nfield = \"rating\"\n\n[output]\n\n[list]\n".toUTF8 := by
  intro environment world run
  have located : environment.settingsPath? = some "bgp.toml" := by decide
  have prepared : FileTree.empty.Prepared "bgp.toml" ["bgp.toml"] := {
    made nearest above parents nonempty := by
      have none : Path.parents "bgp.toml" = [""] := by decide
      rw [none] at parents
      cases parents
      cases nonempty
    located := ⟨[], "bgp.toml", rfl, rfl⟩
    noSlash := by decide
    noDirectory := nofun
    noDevice kind := nofun }
  have usable : world.files.Usable "bgp.toml" := Or.inl prepared.stores
  have column : Column.ofTitle? " RATING" = some .rating := by decide
  have replaces : run.Replaces .default { Settings.default with sortField := some "rating" } :=
    ⟨.sortField, rfl, .sortField column⟩
  have loads : world.settings environment = .ok .default := rfl
  have text : ({ Settings.default with sortField := some "rating" } : Settings).text =
      "version = 1\n\n[sort]\nfield = \"rating\"\n\n[output]\n\n[list]\n" := by
    decide +kernel
  obtain ⟨succeeds, written, -⟩ := settings_after_runs located world usable [] run
  have bytes := (written _ _ loads replaces).2.1
  rw [text] at bytes
  exact ⟨located, usable, succeeds.mpr ⟨_, _, loads, replaces⟩, bytes⟩

end GameShelf
