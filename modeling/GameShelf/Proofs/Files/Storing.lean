import GameShelf.Files.World
import GameShelf.Proofs.Lookup

namespace GameShelf

theorem fromUTF8?_toUTF8 (text : String) : String.fromUTF8? text.toUTF8 = some text :=
  dif_pos text.isValidUTF8

namespace FileTree

theorem put_of_lookup_eq_some {tree : FileTree} {place : List String} {old : Node}
    (there : tree.nodes.lookup place = some old) (node : Node) :
    tree.put place node = { tree with nodes := Lookup.replace place node tree.nodes } := by
  rw [put, there]
  rfl

theorem put_of_lookup_eq_none {tree : FileTree} {place : List String}
    (missing : tree.nodes.lookup place = none) (node : Node) :
    tree.put place node = { tree with nodes := tree.nodes ++ [(place, node)] } := by
  rw [put, missing]
  rfl

theorem lookup_put (tree : FileTree) (place other : List String) (node : Node) :
    (tree.put place node).nodes.lookup other =
      if other == place then some node else tree.nodes.lookup other := by
  cases found : tree.nodes.lookup place with
  | none =>
    rw [put_of_lookup_eq_none found, List.lookup_append, Lookup.lookup_cons_eq_ite]
    by_cases same : other = place
    · simp [same, found]
    · simp [same]
  | some old =>
    rw [put_of_lookup_eq_some found, Lookup.lookup_replace]
    by_cases same : other = place
    · simp [same, found]
    · simp [same]

theorem node?_put_of_ne (tree : FileTree) {place other : List String} (apart : other ≠ place)
    (node : Node) : (tree.put place node).node? other = tree.node? other := by
  simp [node?, lookup_put, apart]

theorem node?_put_self (tree : FileTree) {place : List String} (below : place ≠ []) (node : Node) :
    (tree.put place node).node? place = some node := by
  simp [node?, lookup_put, below]

/-- Of two nodes that are put at one place only the second is left. -/
theorem put_put (tree : FileTree) (place : List String) (first second : Node) :
    (tree.put place first).put place second = tree.put place second := by
  have there : (tree.put place first).nodes.lookup place = some first := by simp [lookup_put]
  rw [put_of_lookup_eq_some there]
  cases found : tree.nodes.lookup place with
  | none => simp only [put_of_lookup_eq_none found, Lookup.replace_last found]
  | some old => simp only [put_of_lookup_eq_some found, Lookup.replace_replace]

/-- Wherever `node` stood in a tree, it still stands in a later one. -/
structure Keeps (node : Node) (tree later : FileTree) : Prop where
  current : later.current = tree.current
  stands (place : List String) (stood : tree.node? place = some node) :
    later.node? place = some node

theorem Keeps.refl (node : Node) (tree : FileTree) : Keeps node tree tree :=
  ⟨rfl, fun _ stood => stood⟩

theorem Keeps.trans {node : Node} {tree later last : FileTree} (first : Keeps node tree later)
    (second : Keeps node later last) : Keeps node tree last :=
  ⟨second.current.trans first.current, fun place stood =>
    second.stands place (first.stands place stood)⟩

theorem keeps_put {tree : FileTree} {place : List String} {node : Node}
    (other : tree.node? place ≠ some node) (new : Node) : Keeps node tree (tree.put place new) := by
  refine ⟨rfl, fun there stood => ?_⟩
  have apart : there ≠ place := by
    rintro rfl
    exact other stood
  rw [node?_put_of_ne tree apart, stood]

namespace Keeps

variable {tree later : FileTree} (keeps : Keeps .directory tree later)

include keeps

/-- Directories that are still there lead to the same places. -/
theorem enter {place last : List String} {names : List String}
    (entered : tree.enter place names = .ok last) : later.enter place names = .ok last := by
  induction names generalizing place with
  | nil => exact entered
  | cons name names ih =>
    rw [FileTree.enter] at entered ⊢
    cases step : descend place name with
    | error error => simp [step] at entered
    | ok next =>
      simp only [step] at entered ⊢
      cases stood : tree.node? next with
      | none => simp [stood] at entered
      | some node =>
        cases node with
        | directory =>
          simp only [stood] at entered
          simp only [keeps.stands next stood]
          exact ih entered
        | file content => simp [stood] at entered
        | program content succeeds => simp [stood] at entered
        | device kind => simp [stood] at entered

theorem locate {path : String} {found : List String × Option String}
    (located : tree.locate path = .ok found) : later.locate path = .ok found := by
  rw [FileTree.locate] at located ⊢
  split at located
  case isTrue => cases located
  split at located
  case isTrue => cases located
  split at located
  case isTrue => cases located
  next clean short nonempty =>
    rw [if_neg clean, if_neg short, if_neg nonempty, keeps.current]
    cases entered : tree.enter (if Path.isAbsolute path then [] else tree.current)
        (Path.components path).dropLast with
    | error error => simp [entered, Except.map] at located
    | ok directory =>
      rw [entered] at located
      rw [keeps.enter entered]
      exact located

theorem place {path : String} {found : List String} (placed : tree.place path = .ok found) :
    later.place path = .ok found := by
  rw [FileTree.place] at placed ⊢
  cases located : tree.locate path with
  | error error => simp [located] at placed
  | ok found =>
    rw [located] at placed
    rw [keeps.locate located]
    exact placed

end Keeps

theorem find_eq_ok_iff {tree : FileTree} {path : String} {node : Node} :
    tree.find path = .ok node ↔ ∃ place, tree.place path = .ok place ∧
      tree.node? place = some node ∧ (Path.endsInSlash path = true → node = .directory) := by
  rw [find]
  cases tree.place path with
  | error error => simp
  | ok place =>
    cases stood : tree.node? place with
    | none => simp [stood]
    | some other =>
      by_cases closed : (Path.endsInSlash path && other != .directory) = true
      · simp only [Bool.and_eq_true, bne_iff_ne] at closed
        simp [stood, closed]
        grind
      · simp [stood, closed]
        grind

theorem isDirectory_iff {tree : FileTree} {path : String} :
    tree.isDirectory path = true ↔ tree.find path = .ok .directory := by
  rw [isDirectory]
  cases tree.find path <;> simp

theorem Keeps.isDirectory {tree later : FileTree} (keeps : Keeps .directory tree later)
    {path : String} (there : tree.isDirectory path = true) : later.isDirectory path = true := by
  rw [isDirectory_iff, find_eq_ok_iff] at there ⊢
  obtain ⟨place, placed, stood, slash⟩ := there
  exact ⟨place, keeps.place placed, keeps.stands place stood, slash⟩

theorem makeDirectory_eq_error {tree : FileTree} {path : String}
    (there : tree.isDirectory path = true) :
    tree.makeDirectory path = .error .alreadyExists := by
  rw [isDirectory_iff, find_eq_ok_iff] at there
  obtain ⟨place, placed, stood, -⟩ := there
  simp [makeDirectory, placed, stood]

theorem keeps_of_makeDirectory {tree later : FileTree} {path : String}
    (made : tree.makeDirectory path = .ok later) (node : Node) : Keeps node tree later := by
  rw [makeDirectory] at made
  cases placed : tree.place path with
  | error error => simp [placed] at made
  | ok place =>
    cases stood : tree.node? place with
    | some old => simp [placed, stood] at made
    | none =>
      simp only [placed, stood, Option.isSome_none, Bool.false_eq_true, if_false,
        Except.ok.injEq] at made
      exact made ▸ keeps_put (by rw [stood]; simp) _

theorem isDirectory_of_makeDirectory {tree later : FileTree} {path : String}
    (made : tree.makeDirectory path = .ok later) : later.isDirectory path = true := by
  have keeps := keeps_of_makeDirectory made .directory
  rw [makeDirectory] at made
  cases placed : tree.place path with
  | error error => simp [placed] at made
  | ok place =>
    cases stood : tree.node? place with
    | some old => simp [placed, stood] at made
    | none =>
      simp only [placed, stood, Option.isSome_none, Bool.false_eq_true, if_false,
        Except.ok.injEq] at made
      have below : place ≠ [] := by
        rintro rfl
        simp [node?] at stood
      rw [isDirectory_iff, find_eq_ok_iff]
      refine ⟨place, keeps.place placed, ?_, fun _ => rfl⟩
      rw [← made, node?_put_self tree below]

end FileTree

namespace Task

@[simp]
theorem perform_pure {α : Type} (value : α) (world : World) :
    (pure value : Task α).perform world = (value, world) :=
  rfl

@[simp]
theorem perform_seq {α β : Type} (task : Task α) (rest : α → Task β) (world : World) :
    (task >>= rest).perform world =
      (rest (task.perform world).1).perform (task.perform world).2 :=
  perform_bind task rest world

/-- What making directories comes to in a tree: the result, and the tree after it, in which every
node is where it was. Nothing else in the world is touched. -/
structure Makes (task : Task (Except FileError Unit)) (files : FileTree)
    (result : Except FileError Unit) (after : FileTree) : Prop where
  performs (input : ByteArray) (output errors : String) :
    task.perform ⟨files, input, output, errors⟩ = (result, ⟨after, input, output, errors⟩)
  keeps (node : Node) : files.Keeps node after

theorem exists_makes_ensureDirectory (path : String) (files : FileTree) :
    ∃ result after, Makes (ensureDirectory path) files result after ∧
      (result = .ok () → after.isDirectory path = true) := by
  cases made : files.makeDirectory path with
  | ok after =>
    refine ⟨.ok (), after, ⟨fun input output errors => ?_, FileTree.keeps_of_makeDirectory made⟩,
      fun _ => FileTree.isDirectory_of_makeDirectory made⟩
    simp [ensureDirectory, makeDirectory, perform, World.makeDirectory, made]
  | error error =>
    cases there : files.isDirectory path with
    | true =>
      refine ⟨.ok (), files, ⟨fun input output errors => ?_, (.refl · files)⟩, fun _ => there⟩
      simp [ensureDirectory, makeDirectory, isDirectory, perform, World.makeDirectory, made, there]
    | false =>
      refine ⟨.error error, files, ⟨fun input output errors => ?_, (.refl · files)⟩, nofun⟩
      simp [ensureDirectory, makeDirectory, isDirectory, perform, World.makeDirectory, made, there]

/-- After the first of some directories was asked for with success, it is there. -/
theorem exists_makes_ensureDirectories (paths : List String) (files : FileTree) :
    ∃ result after, Makes (ensureDirectories paths) files result after ∧
      (result = .ok () → ∀ nearest above, paths = nearest :: above → nearest.isEmpty = false →
        after.isDirectory nearest = true) := by
  induction paths generalizing files with
  | nil => exact ⟨.ok (), files, ⟨fun _ _ _ => rfl, (.refl · files)⟩, nofun⟩
  | cons path above ih =>
    cases empty : path.isEmpty with
    | true =>
      refine ⟨.ok (), files, ⟨fun input output errors => ?_, (.refl · files)⟩, ?_⟩
      · simp [ensureDirectories, empty]
      · rintro - nearest rest ⟨⟩ nonempty
        rw [empty] at nonempty
        cases nonempty
    | false =>
      obtain ⟨result, after, makes, there⟩ := exists_makes_ensureDirectory path files
      by_cases missing : result = .error .notFound
      · subst missing
        obtain ⟨aboveResult, middle, makesAbove, -⟩ := ih after
        cases aboveResult with
        | error error =>
          refine ⟨.error error, middle, ⟨fun input output errors => ?_, fun node =>
            (makes.keeps node).trans (makesAbove.keeps node)⟩, nofun⟩
          simp [ensureDirectories, empty, makes.performs, makesAbove.performs]
        | ok =>
          obtain ⟨last, final, makesLast, thereLast⟩ := exists_makes_ensureDirectory path middle
          refine ⟨last, final, ⟨fun input output errors => ?_, fun node =>
            ((makes.keeps node).trans (makesAbove.keeps node)).trans (makesLast.keeps node)⟩, ?_⟩
          · simp [ensureDirectories, empty, makes.performs, makesAbove.performs,
              makesLast.performs]
          · rintro success nearest rest ⟨⟩ -
            exact thereLast success
      · refine ⟨result, after, ⟨fun input output errors => ?_, makes.keeps⟩, ?_⟩
        · simp [ensureDirectories, empty, makes.performs]
        · rintro success nearest rest ⟨⟩ -
          exact there success

end Task

/-- A world with these files, in which nothing was read or printed. -/
def World.quiet (files : FileTree) : World :=
  ⟨files, .empty, "", ""⟩

/-- A text can be kept at a path: the directories above it can be made, and then what is written
there can be read again. -/
structure FileTree.Stores (files : FileTree) (path : String) : Prop where
  prepares : ((Task.prepare path).perform (.quiet files)).1 = .ok ()
  writes (text : String) :
    (((Task.prepare path).perform (.quiet files)).2.write path text).1 = .ok ()
  reads (text : String) :
    ((((Task.prepare path).perform (.quiet files)).2.write path text).2.read path).1 =
      .ok text.toUTF8

/-- A tree in which a file can be written at a path as things are, and the place it leads to. -/
structure FileTree.Prepared (files : FileTree) (path : String) (place : List String) : Prop where
  made (nearest : String) (above : List String) (parents : Path.parents path = nearest :: above)
    (nonempty : nearest.isEmpty = false) : files.isDirectory nearest = true
  located : ∃ directory name, files.locate path = .ok (directory, some name) ∧
    descend directory name = .ok place
  noSlash : Path.endsInSlash path = false
  noDirectory : files.node? place ≠ some .directory
  noDevice (kind : Device) : files.node? place ≠ some (.device kind)

namespace FileTree.Prepared

variable {files : FileTree} {path : String} {place : List String}
  (prepared : files.Prepared path place)

include prepared

theorem place_eq : files.place path = .ok place := by
  obtain ⟨directory, name, located, step⟩ := prepared.located
  simp [FileTree.place, located, step]

theorem below : place ≠ [] := by
  rintro rfl
  exact prepared.noDirectory rfl

theorem write_eq (content : ByteArray) :
    files.write path content = .ok (files.put place (.file content)) := by
  obtain ⟨directory, name, located, step⟩ := prepared.located
  simp only [write, located, prepared.noSlash, step, fill]
  cases stood : files.node? place with
  | none => simp
  | some node =>
    cases node with
    | directory => exact absurd stood prepared.noDirectory
    | file content => simp
    | program content succeeds => simp
    | device kind => exact absurd stood (prepared.noDevice kind)

/-- Writing the file leaves everything as it is to be for writing it again. -/
theorem put (content : ByteArray) :
    (files.put place (.file content)).Prepared path place := by
  have keeps : Keeps .directory files (files.put place (.file content)) :=
    keeps_put prepared.noDirectory _
  have there := node?_put_self files prepared.below (.file content)
  obtain ⟨directory, name, located, step⟩ := prepared.located
  exact {
    made nearest above parents nonempty :=
      keeps.isDirectory (prepared.made nearest above parents nonempty)
    located := ⟨directory, name, keeps.locate located, step⟩
    noSlash := prepared.noSlash
    noDirectory := by simp [there]
    noDevice kind := by simp [there] }

theorem find_put (content : ByteArray) :
    (files.put place (.file content)).find path = .ok (.file content) := by
  rw [find_eq_ok_iff]
  refine ⟨place, (prepared.put content).place_eq, node?_put_self files prepared.below _, ?_⟩
  intro slash
  rw [prepared.noSlash] at slash
  cases slash

theorem perform_prepare (input : ByteArray) (output errors : String) :
    (Task.prepare path).perform ⟨files, input, output, errors⟩ =
      (.ok (), ⟨files, input, output, errors⟩) := by
  rw [Task.prepare]
  cases parents : Path.parents path with
  | nil => rfl
  | cons nearest above =>
    cases empty : nearest.isEmpty with
    | true => simp [Task.ensureDirectories, empty]
    | false =>
      have there := prepared.made nearest above parents empty
      simp [Task.ensureDirectories, Task.ensureDirectory, Task.makeDirectory, Task.isDirectory,
        Task.perform, World.makeDirectory, makeDirectory_eq_error there, there, empty]

theorem find_ne_device (kind : Device) : files.find path ≠ .ok (.device kind) := by
  rw [Ne, find_eq_ok_iff]
  rintro ⟨there, placed, stood, -⟩
  rw [prepared.place_eq] at placed
  cases placed
  exact prepared.noDevice kind stood

theorem world_write (text : String) (input : ByteArray) (output errors : String) :
    World.write ⟨files, input, output, errors⟩ path text =
      (.ok (), ⟨files.put place (.file text.toUTF8), input, output, errors⟩) := by
  simp only [World.write, prepared.write_eq]
  split
  case h_1 stream => exact absurd stream (prepared.find_ne_device .output)
  case h_2 stream => exact absurd stream (prepared.find_ne_device .errors)
  case h_3 => rfl

theorem read_put (content : ByteArray) :
    (files.put place (.file content)).read path = .ok content := by
  rw [FileTree.read, prepared.find_put]

theorem stores : files.Stores path := by
  refine ⟨?_, fun text => ?_, fun text => ?_⟩
  all_goals rw [World.quiet, prepared.perform_prepare]
  all_goals simp only [prepared.world_write]
  simp only [World.read, prepared.find_put, prepared.read_put]

end FileTree.Prepared

namespace FileTree

theorem of_write_eq_ok {files later : FileTree} {path : String} {content : ByteArray}
    (written : files.write path content = .ok later) :
    ∃ directory name place, files.locate path = .ok (directory, some name) ∧
      Path.endsInSlash path = false ∧ descend directory name = .ok place ∧
      files.fill place content = .ok later := by
  rw [write] at written
  cases located : files.locate path with
  | error error => simp [located] at written
  | ok found =>
    obtain ⟨directory, last⟩ := found
    cases last with
    | none => simp [located] at written
    | some name =>
      by_cases slash : Path.endsInSlash path = true
      · simp [located, slash] at written
      · cases step : descend directory name with
        | error error => simp [located, slash, step] at written
        | ok place =>
          simp only [located, slash, step, Bool.false_eq_true, if_false] at written
          exact ⟨directory, name, place, rfl, by simpa using slash, step, written⟩

theorem eq_of_write_device {files later : FileTree} {path : String} {content : ByteArray}
    {kind : Device} (device : files.find path = .ok (.device kind))
    (written : files.write path content = .ok later) : later = files := by
  obtain ⟨directory, name, place, located, -, step, filled⟩ := of_write_eq_ok written
  obtain ⟨found, placed, stood, -⟩ := find_eq_ok_iff.mp device
  have same : place = found := by
    simp only [FileTree.place, located, step, Except.ok.injEq] at placed
    exact placed
  rw [fill, same, stood] at filled
  by_cases room : (kind = .full && !content.isEmpty) = true
  · simp [room] at filled
  · simp only [room, Bool.false_eq_true, if_false, Except.ok.injEq] at filled
    exact filled.symm

/-- A device gives nothing back of what was written to it. -/
theorem read_device {files : FileTree} {path : String} {kind : Device}
    (device : files.find path = .ok (.device kind)) (text : String) :
    (((World.quiet files).write path text).2.read path).1 = .ok .empty := by
  have kept : ((World.quiet files).write path text).2.files = files ∧
      ((World.quiet files).write path text).2.input = .empty := by
    rw [World.write]
    cases written : (World.quiet files).files.write path text.toUTF8 with
    | error error => exact ⟨rfl, rfl⟩
    | ok later =>
      have same : later = files := eq_of_write_device device written
      simp only
      split
      · exact ⟨rfl, rfl⟩
      · exact ⟨rfl, rfl⟩
      · exact ⟨same, rfl⟩
  rw [World.read, kept.1, device, FileTree.read, device]
  split
  · exact congrArg Except.ok kept.2
  · rfl

theorem Stores.exists_prepared {files : FileTree} {path : String} (stores : files.Stores path) :
    ∃ later place, Task.Makes (Task.prepare path) files (.ok ()) later ∧
      later.Prepared path place := by
  obtain ⟨result, later, makes, there⟩ :=
    Task.exists_makes_ensureDirectories (Path.parents path) files
  have performed : (Task.prepare path).perform (.quiet files) = (result, .quiet later) :=
    makes.performs _ _ _
  obtain ⟨prepares, writes, reads⟩ := stores
  rw [performed] at prepares writes reads
  subst prepares
  have written : ∃ last, later.write path "x".toUTF8 = .ok last := by
    have whole := writes "x"
    rw [World.write] at whole
    cases written : (World.quiet later).files.write path "x".toUTF8 with
    | error error =>
      simp only [written] at whole
      cases whole
    | ok last => exact ⟨last, written⟩
  obtain ⟨last, written⟩ := written
  obtain ⟨directory, name, place, located, noSlash, step, filled⟩ := of_write_eq_ok written
  have placed : later.place path = .ok place := by simp [FileTree.place, located, step]
  refine ⟨later, place, makes, ?_⟩
  exact {
    made := there rfl
    located := ⟨directory, name, located, step⟩
    noSlash := noSlash
    noDirectory stood := by simp [fill, stood] at filled
    noDevice kind stood := by
      have device : later.find path = .ok (.device kind) :=
        find_eq_ok_iff.mpr ⟨place, placed, stood, by simp [noSlash]⟩
      have same := (read_device device "x").symm.trans (reads "x")
      exact absurd (Except.ok.inj same) (by decide) }

end FileTree

end GameShelf
