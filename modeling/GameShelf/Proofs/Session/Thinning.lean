import GameShelf.Proofs.Files.Outline
import GameShelf.Proofs.Session.Positions
import GameShelf.Proofs.Shortlist.History
import GameShelf.Session.Script

namespace GameShelf

/-- Whether a command is made for looking only. Saving the list is among these, as it changes no
session. -/
def Command.onlyLooks : Command → Bool
  | .empty => true
  | .view => true
  | .filters => true
  | .columns => true
  | .listShow => true
  | .listCount => true
  | .listSave _ => true
  | .help => true
  | _ => false

/-- Whether a line is a command made for looking only. -/
def Command.isLook (line : String) : Bool :=
  match parse line with
  | .ok command => command.onlyLooks
  | .error _ => false

def LineResult.fails : LineResult → Bool
  | .misread _ => true
  | .failed _ => true
  | _ => false

namespace Session

variable {session next : Session} {style : Style} {files others : FileTree}

theorem eq_of_changed_failed {verb : String} {change : Shortlist.Change} {error : ShortlistError}
    (kept : ∀ list cause, change = (list, .error cause) → list = session.list)
    (failed : session.changed verb change = .failed next error) : next = session := by
  rcases change with ⟨list, cause | n⟩
  · have same : list = session.list := kept list cause rfl
    cases failed
    rw [same]
  · cases failed

theorem eq_of_answer_failed {command : Command} {error : ShortlistError}
    (failed : session.answer style command = .failed next error) : next = session := by
  cases command with
  | listAdd selection =>
    rw [answer] at failed
    exact eq_of_changed_failed (fun _ _ => Shortlist.eq_of_addFrom_error) failed
  | listRemove selection =>
    rw [answer] at failed
    exact eq_of_changed_failed (fun _ _ => Shortlist.eq_of_strike_error) failed
  | listClear =>
    rw [answer] at failed
    split at failed <;> cases failed
  | _ => simp only [answer, showView, reduceCtorEq] at failed

theorem run_of_written {command : Command} {path content text : String} {later : FileTree}
    (asked : session.answer style command = .save path content text)
    (written : files.write path content.toUTF8 = .ok later) :
    session.run style files command = (.shown text, session, later) := by
  simp only [run, asked, written]

theorem run_of_not_written {command : Command} {path content text : String} {error : FileError}
    (asked : session.answer style command = .save path content text)
    (refused : files.write path content.toUTF8 = .error error) :
    session.run style files command =
      (.failed (.saveFailed path error.message), session, files) := by
  simp only [run, asked, refused]

theorem run_of_fails {command : Command} (fails : (session.run style files command).1.fails) :
    (session.run style files command).2 = (session, files) := by
  cases asked : session.answer style command with
  | shown next text =>
    rw [run, asked] at fails
    cases fails
  | failed next error => rw [run, asked, eq_of_answer_failed asked]
  | save path content text =>
    cases written : files.write path content.toUTF8 with
    | error error => rw [run_of_not_written asked written]
    | ok later =>
      rw [run_of_written asked written] at fails
      cases fails
  | leave =>
    rw [run, asked] at fails
    cases fails

theorem run_of_onlyLooks {command : Command} (looks : command.onlyLooks) :
    (session.run style files command).1 ≠ .leave ∧
      (session.run style files command).2.1 = session := by
  cases command with
  | filter _ => cases looks
  | sort _ _ => cases looks
  | reset => cases looks
  | listAdd _ => cases looks
  | listRemove _ => cases looks
  | listClear => cases looks
  | exit => cases looks
  | listSave path =>
    simp only [run, answer]
    split <;> exact ⟨(by rintro ⟨⟩), rfl⟩
  | _ => exact ⟨(by rintro ⟨⟩), rfl⟩

/-- The files that a command writes leave the directories and devices as they are. -/
theorem alike_run (session : Session) (style : Style) (files : FileTree) (command : Command) :
    files.Alike (session.run style files command).2.2 := by
  cases asked : session.answer style command with
  | save path content text =>
    cases written : files.write path content.toUTF8 with
    | error error =>
      rw [run_of_not_written asked written]
      exact .refl files
    | ok later =>
      rw [run_of_written asked written]
      exact FileTree.alike_of_write written
  | _ =>
    rw [run, asked]
    exact .refl files

/-- A command that succeeds does the same among files that are like those. -/
theorem run_of_alike (alike : files.Alike others) {command : Command}
    (succeeds : ¬ (session.run style files command).1.fails) :
    (session.run style others command).1 = (session.run style files command).1 ∧
      (session.run style others command).2.1 = (session.run style files command).2.1 := by
  cases asked : session.answer style command with
  | save path content text =>
    cases written : files.write path content.toUTF8 with
    | error error =>
      rw [run_of_not_written asked written] at succeeds
      exact absurd rfl succeeds
    | ok later =>
      obtain ⟨last, again⟩ := alike.exists_write written
      rw [run_of_written asked written, run_of_written asked again]
      exact ⟨rfl, rfl⟩
  | _ =>
    rw [run, run, asked]
    exact ⟨rfl, rfl⟩

theorem runLine_of_fails {line : String} (fails : (session.runLine style files line).1.fails) :
    (session.runLine style files line).2 = (session, files) := by
  rw [runLine] at fails ⊢
  cases read : Command.parse line with
  | error error => rfl
  | ok command =>
    rw [read] at fails
    exact run_of_fails fails

/-- A line that fails or only looks is not the last one, and leaves the session alone. -/
theorem runLine_of_idle {line : String}
    (idle : (session.runLine style files line).1.fails ∨ Command.isLook line) :
    (session.runLine style files line).1 ≠ .leave ∧
      (session.runLine style files line).2.1 = session := by
  rcases idle with fails | looks
  · refine ⟨fun leaves => ?_, by rw [runLine_of_fails fails]⟩
    rw [leaves] at fails
    cases fails
  · rw [runLine]
    cases read : Command.parse line with
    | error error => exact ⟨(by rintro ⟨⟩), rfl⟩
    | ok command =>
      rw [Command.isLook, read] at looks
      exact run_of_onlyLooks looks

theorem alike_runLine (session : Session) (style : Style) (files : FileTree) (line : String) :
    files.Alike (session.runLine style files line).2.2 := by
  rw [runLine]
  cases Command.parse line with
  | error error => exact .refl files
  | ok command => exact session.alike_run style files command

theorem runLine_of_alike (alike : files.Alike others) {line : String}
    (succeeds : ¬ (session.runLine style files line).1.fails) :
    (session.runLine style others line).1 = (session.runLine style files line).1 ∧
      (session.runLine style others line).2.1 = (session.runLine style files line).2.1 := by
  simp only [runLine] at succeeds ⊢
  cases read : Command.parse line with
  | error error => exact ⟨rfl, rfl⟩
  | ok command =>
    rw [read] at succeeds
    exact run_of_alike alike succeeds

theorem runScript_cons_of_leave {line : String}
    (leaves : (session.runLine style files line).1 = .leave) (lines : List String) :
    (session.runScript style files (line :: lines)).1 =
      [((session.runLine style files line).1, (session.runLine style files line).2.1)] := by
  rw [runScript]
  rcases outcome : session.runLine style files line with ⟨result, next, later⟩
  rw [outcome] at leaves
  cases leaves
  rfl

theorem runScript_cons_of_stays {line : String}
    (stays : (session.runLine style files line).1 ≠ .leave) (lines : List String) :
    (session.runScript style files (line :: lines)).1 =
      ((session.runLine style files line).1, (session.runLine style files line).2.1) ::
        ((session.runLine style files line).2.1.runScript style
          (session.runLine style files line).2.2 lines).1 := by
  rw [runScript]
  rcases outcome : session.runLine style files line with ⟨result, next, later⟩
  rw [outcome] at stays
  cases result with
  | leave => exact absurd rfl stays
  | _ => rfl

end Session

/-- A line of a script, and whether it is to be dropped. -/
structure MarkedLine where
  text : String
  dropped : Bool

namespace Session

def texts (lines : List MarkedLine) : List String :=
  lines.map MarkedLine.text

/-- The script without the dropped lines. -/
def keptTexts (lines : List MarkedLine) : List String :=
  texts (lines.filter fun line => !line.dropped)

/-- The results of the lines that are not dropped, among those that were reached. -/
def keptResults (lines : List MarkedLine) (results : List (LineResult × Session)) :
    List (LineResult × Session) :=
  ((lines.zip results).filter fun step => !step.1.dropped).map Prod.snd

/-- All lines that failed are dropped, and besides them only lines that look. -/
def DropsIdle (lines : List MarkedLine) (results : List (LineResult × Session)) : Prop :=
  ∀ step ∈ lines.zip results, (step.2.1.fails → step.1.dropped) ∧
    (step.1.dropped → step.2.1.fails ∨ Command.isLook step.1.text)

instance (lines : List MarkedLine) (results : List (LineResult × Session)) :
    Decidable (DropsIdle lines results) :=
  List.decidableBAll _ _

/-- The session after a script that had some results. -/
def after (session : Session) (results : List (LineResult × Session)) : Session :=
  (results.map Prod.snd).getLastD session

theorem after_cons (session : Session) (step : LineResult × Session)
    (results : List (LineResult × Session)) :
    session.after (step :: results) = step.2.after results :=
  List.getLastD_cons

theorem DropsIdle.head {line : MarkedLine} {lines : List MarkedLine} {step : LineResult × Session}
    {results : List (LineResult × Session)} (idle : DropsIdle (line :: lines) (step :: results)) :
    (step.1.fails → line.dropped) ∧ (line.dropped → step.1.fails ∨ Command.isLook line.text) :=
  idle (line, step) (by simp)

theorem DropsIdle.tail {line : MarkedLine} {lines : List MarkedLine} {step : LineResult × Session}
    {results : List (LineResult × Session)} (idle : DropsIdle (line :: lines) (step :: results)) :
    DropsIdle lines results :=
  fun pair member => idle pair (List.mem_cons_of_mem _ member)

/-- The trees of the two runs need only be alike, since a save may be among the dropped lines. -/
theorem runScript_keptTexts {lines : List MarkedLine} {session : Session} {style : Style}
    {files others : FileTree} (alike : files.Alike others)
    (idle : DropsIdle lines (session.runScript style files (texts lines)).1) :
    (session.runScript style others (keptTexts lines)).1 =
        keptResults lines (session.runScript style files (texts lines)).1 ∧
      session.after (session.runScript style others (keptTexts lines)).1 =
        session.after (session.runScript style files (texts lines)).1 := by
  induction lines generalizing session files others with
  | nil => exact ⟨rfl, rfl⟩
  | cons line lines ih =>
    have drops (dropped : line.dropped = true) :
        keptTexts (line :: lines) = keptTexts lines := by
      simp [keptTexts, dropped]
    have keeps (kept : line.dropped = false) :
        keptTexts (line :: lines) = line.text :: keptTexts lines := by
      simp [keptTexts, texts, kept]
    rw [texts, List.map_cons, ← texts] at idle ⊢
    by_cases leaves : (session.runLine style files line.text).1 = .leave
    · rw [runScript_cons_of_leave leaves] at idle ⊢
      have kept : line.dropped = false := by
        by_contra dropped
        exact (runLine_of_idle (idle.head.2 (by simpa using dropped))).1 leaves
      have succeeds : ¬ (session.runLine style files line.text).1.fails := by
        simp [leaves, LineResult.fails]
      obtain ⟨result, state⟩ := runLine_of_alike alike succeeds
      rw [keeps kept, runScript_cons_of_leave (result.trans leaves), result, state]
      exact ⟨by simp [keptResults, kept], rfl⟩
    · rw [runScript_cons_of_stays leaves] at idle ⊢
      have later := session.alike_runLine style files line.text
      cases dropped : line.dropped with
      | true =>
        -- the line is in one run only: its session is the old one, its files are like the old ones
        obtain ⟨-, state⟩ := runLine_of_idle (idle.head.2 dropped)
        rw [state] at idle ⊢
        obtain ⟨results, last⟩ := ih (later.symm.trans alike) idle.tail
        rw [drops dropped, after_cons]
        exact ⟨by simpa [keptResults, dropped] using results, last⟩
      | false =>
        have succeeds : ¬ (session.runLine style files line.text).1.fails := by
          simpa [dropped] using idle.head.1
        obtain ⟨result, state⟩ := runLine_of_alike alike succeeds
        have stays : (session.runLine style others line.text).1 ≠ .leave := by rwa [result]
        obtain ⟨results, last⟩ := ih
          ((later.symm.trans alike).trans (session.alike_runLine style others line.text)) idle.tail
        rw [keeps dropped, runScript_cons_of_stays stays, after_cons, after_cons, result, state]
        exact ⟨by simpa [keptResults, dropped] using results, last⟩

/-- Dropping lines that fail and lines that look changes neither what the other lines print, nor
the session after any of them. -/
theorem idle_lines_leave_no_trace {session : Session} {style : Style} {files : FileTree}
    {lines : List MarkedLine}
    (idle : DropsIdle lines (session.runScript style files (texts lines)).1) :
    (session.runScript style files (keptTexts lines)).1 =
        keptResults lines (session.runScript style files (texts lines)).1 ∧
      session.after (session.runScript style files (keptTexts lines)).1 =
        session.after (session.runScript style files (texts lines)).1 :=
  runScript_keptTexts (.refl files) idle

/-- A script with a line of each kind that fails, a save that fails too, and some looks. One look
stays, and so does what stands after the end. -/
def crowdedScript : List MarkedLine :=
  [⟨"list remove 1", true⟩, ⟨"filter name~=g", false⟩, ⟨"oops", true⟩, ⟨"list add 2", true⟩,
    ⟨"list add all", false⟩, ⟨"list save a/b", true⟩, ⟨"list save c", true⟩, ⟨"sort year up", true⟩,
    ⟨"list count", false⟩, ⟨"show", true⟩, ⟨"quit", false⟩, ⟨"oops", false⟩]

theorem idle_lines_leave_no_trace_of_crowdedScript :
    let session := start [.go] .standard "list.txt"
    let whole := (session.runScript ⟨false, false⟩ .empty (texts crowdedScript)).1
    let thinned := (session.runScript ⟨false, false⟩ .empty
      ["filter name~=g", "list add all", "list count", "quit", "oops"]).1
    DropsIdle crowdedScript whole ∧ thinned = keptResults crowdedScript whole ∧
      session.after thinned = session.after whole := by
  intro session whole thinned
  have idle : DropsIdle crowdedScript whole := by decide +kernel
  exact ⟨idle, idle_lines_leave_no_trace idle⟩

end Session

end GameShelf
