import GameShelf.Files.Machine
import GameShelf.Proofs.Session.Thinning

namespace GameShelf

namespace Session

variable {session : Session} {style : Style} {files : FileTree} {place : List String} {node : Node}

theorem changed_ne_save {verb : String} {change : Shortlist.Change} {path content text : String} :
    session.changed verb change ≠ .save path content text := by
  rcases change with ⟨list, error | n⟩ <;> nofun

/-- Only `list save` asks for a file to be written, and it is the list that goes there. -/
theorem of_answer_save {command : Command} {path content text : String}
    (asked : session.answer style command = .save path content text) :
    ∃ given, command = .listSave given ∧ path = given.getD session.savePath ∧
      content = session.list.text := by
  cases command with
  | listSave given =>
    cases asked
    exact ⟨given, rfl, rfl, rfl⟩
  | listAdd selection =>
    rw [answer] at asked
    exact absurd asked changed_ne_save
  | listRemove selection =>
    rw [answer] at asked
    exact absurd asked changed_ne_save
  | listClear =>
    rw [answer] at asked
    split at asked <;> cases asked
  | _ => simp only [answer, showView, reduceCtorEq] at asked

/-- A line saves the list to a place, which holds a node then: the names of the list as the session
has it after the line. -/
def Saves (files : FileTree) (place : List String) (node : Node) (line : String)
    (result : LineResult) (next : Session) : Prop :=
  ∃ given text, Command.parse line = .ok (.listSave given) ∧ result = .shown text ∧
    files.place (given.getD next.savePath) = .ok place ∧ node = .file next.list.text.toUTF8

/-- Saving a file leaves every path where it led. -/
theorem Saves.of_alike {later : FileTree} (alike : files.Alike later) {line : String}
    {result : LineResult} {next : Session} (saves : Saves later place node line result next) :
    Saves files place node line result next := by
  obtain ⟨given, text, read, shown, placed, saved⟩ := saves
  have keeps : FileTree.Keeps .directory later files := alike.symm.keeps rfl
  exact ⟨given, text, read, shown, keeps.place placed, saved⟩

/-- A line leaves the files as they are, or saves the list and leaves the session as it is. -/
theorem runLine_files (session : Session) (style : Style) (files : FileTree) (line : String) :
    (session.runLine style files line).2.2 = files ∨
      ∃ given text later, Command.parse line = .ok (.listSave given) ∧
        files.write (given.getD session.savePath) session.list.text.toUTF8 = .ok later ∧
        session.runLine style files line = (.shown text, session, later) := by
  rw [runLine]
  cases read : Command.parse line with
  | error error => exact Or.inl rfl
  | ok command =>
    cases asked : session.answer style command with
    | save path content text =>
      cases written : files.write path content.toUTF8 with
      | error error =>
        refine Or.inl ?_
        simp only [run_of_not_written asked written]
      | ok later =>
        obtain ⟨given, rfl, rfl, rfl⟩ := of_answer_save asked
        exact Or.inr ⟨given, text, later, rfl, written, run_of_written asked written⟩
    | _ =>
      refine Or.inl ?_
      simp only [run, asked]

theorem saves_of_runLine_changed {line : String} (changed : files.node? place ≠ some node)
    (stands : (session.runLine style files line).2.2.node? place = some node) :
    Saves files place node line (session.runLine style files line).1
      (session.runLine style files line).2.1 := by
  rcases session.runLine_files style files line with
    same | ⟨given, text, later, read, written, whole⟩
  · rw [same] at stands
    exact absurd stands changed
  · rw [whole] at stands ⊢
    obtain ⟨placed, saved⟩ := FileTree.node?_of_write written changed stands
    exact ⟨given, text, read, rfl, placed, saved⟩

theorem distinct_runLine (distinct : files.Distinct) (session : Session) (style : Style)
    (line : String) : (session.runLine style files line).2.2.Distinct := by
  rcases session.runLine_files style files line with same | ⟨_, _, _, _, written, whole⟩
  · rwa [same]
  · rw [whole]
    exact distinct.write written

/-- Induction on the lines: what none of the later lines has changed was changed by the first. -/
theorem exists_saves_of_runScript_changed {lines : List String}
    (changed : files.node? place ≠ some node)
    (stands : (session.runScript style files lines).2.node? place = some node) :
    ∃ line result next, (line, result, next) ∈ lines.zip (session.runScript style files lines).1 ∧
      Saves files place node line result next := by
  induction lines generalizing session files with
  | nil => exact absurd stands changed
  | cons line lines ih =>
    have alike := session.alike_runLine style files line
    have first (here : (session.runLine style files line).2.2.node? place = some node) :=
      saves_of_runLine_changed changed here
    rcases outcome : session.runLine style files line with ⟨result, next, later⟩
    rw [outcome] at alike first
    by_cases here : later.node? place = some node
    · refine ⟨line, result, next, ?_, first here⟩
      cases result <;> simp [runScript, outcome]
    · cases result with
      | leave =>
        simp only [runScript, outcome] at stands
        exact absurd stands here
      | _ =>
        simp only [runScript, outcome] at stands ⊢
        obtain ⟨other, result, last, member, saves⟩ := ih here stands
        exact ⟨other, result, last, List.mem_cons_of_mem _ member, saves.of_alike alike⟩

theorem distinct_and_current_runScript (distinct : files.Distinct) (session : Session)
    (style : Style) (lines : List String) :
    (session.runScript style files lines).2.Distinct ∧
      (session.runScript style files lines).2.current = files.current := by
  induction lines generalizing session files with
  | nil => exact ⟨distinct, rfl⟩
  | cons line lines ih =>
    have kept := distinct_runLine distinct session style line
    have alike := session.alike_runLine style files line
    rcases outcome : session.runLine style files line with ⟨result, next, later⟩
    rw [outcome] at kept alike
    rw [← alike.current]
    cases result with
    | leave =>
      simp only [runScript, outcome]
      exact ⟨kept, trivial⟩
    | _ =>
      simp only [runScript, outcome]
      exact ih kept next

/-- After all its lines a session has changed no file below the current directory but those that
its lines saved, and each holds the list as one of these lines saved it. -/
theorem changes_of_runScript (distinct : files.Distinct) (session : Session) (style : Style)
    (lines : List String) {names : List String}
    (change : (names, node) ∈ (session.runScript style files lines).2.changesSince files) :
    ∃ line result next, (line, result, next) ∈ lines.zip (session.runScript style files lines).1 ∧
      Saves files (files.current ++ names) node line result next := by
  obtain ⟨kept, current⟩ := distinct_and_current_runScript distinct session style lines
  obtain ⟨-, stands, changed⟩ := (FileTree.mem_changesSince_iff kept).mp change
  rw [current] at stands
  exact exists_saves_of_runScript_changed changed stands

end Session

/-- On a usual machine no place is listed twice, if the current directory is new on it. -/
theorem Machine.distinct_files {current : List String}
    (fresh : current ∉ nodes.map Prod.fst) : (files current).Distinct := by
  have distinct : (nodes.map Prod.fst).Nodup := by decide +kernel
  rw [FileTree.Distinct, files]
  exact Lookup.nodup_concat distinct fresh .directory

end GameShelf
