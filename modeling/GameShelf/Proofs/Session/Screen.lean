import GameShelf.Proofs.Planner.History
import GameShelf.Session.Script

namespace GameShelf

/-- Whether a command prints a view. -/
def Command.showsView : Command → Bool
  | filter _ => true
  | sort _ _ => true
  | view => true
  | _ => false

namespace Session

/-- One command as far as views are concerned: a filter adds clauses, a reset drops them, a sort
changes the order, and nothing else touches the planner or the order. -/
theorem run_planner_and_order (session : Session) (style : Style) (files : FileTree)
    (command : Command) :
    (session.run style files command).2.1.planner =
        (match command with
          | .filter expression => (session.planner.addFilters expression).1
          | .reset => session.planner.reset
          | _ => session.planner) ∧
      (session.run style files command).2.1.order =
        match command with
        | .sort column descending => .resolve (some column) descending session.order
        | _ => session.order := by
  cases command with
  | listAdd selection =>
    rcases change : session.list.addFrom selection session.view with ⟨list, error | n⟩ <;>
      simp [run, answer, change, changed]
  | listRemove selection =>
    rcases change : session.list.strike selection with ⟨list, error | n⟩ <;>
      simp [run, answer, change, changed]
  | listClear =>
    by_cases nothing : session.list.isEmpty <;> simp [run, answer, nothing]
  | listSave path =>
    simp only [run, answer]
    split <;> exact ⟨rfl, rfl⟩
  | _ => simp [run, answer, showView]

theorem games_run (session : Session) (style : Style) (files : FileTree) (command : Command) :
    (session.run style files command).2.1.planner.games = session.planner.games := by
  rw [(session.run_planner_and_order style files command).1]
  cases command with
  | filter expression => simp only [Planner.addFilters_fst]
  | _ => rfl

/-- A command that shows no view keeps the order, and the planner too unless it is a reset. -/
theorem run_of_not_showsView (session : Session) (style : Style) (files : FileTree)
    {command : Command} (quiet : ¬ command.showsView) :
    (session.run style files command).2.1.planner =
        (if command = .reset then session.planner.reset else session.planner) ∧
      (session.run style files command).2.1.order = session.order := by
  have state := session.run_planner_and_order style files command
  cases command with
  | filter _ => exact absurd rfl quiet
  | sort _ _ => exact absurd rfl quiet
  | view => exact absurd rfl quiet
  | _ => simpa using state

/-- A command that shows a view prints that of the session it leads to. -/
theorem run_of_showsView (session : Session) (style : Style) (files : FileTree) {command : Command}
    (shows : command.showsView) :
    ∃ rejected, (session.run style files command).1 =
      .shown (ignoredText style rejected ++
        viewText style (session.run style files command).2.1.planner
          (session.run style files command).2.1.view rejected) := by
  cases command with
  | filter expression => exact ⟨_, rfl⟩
  | sort column descending => exact ⟨[], rfl⟩
  | view => exact ⟨[], rfl⟩
  | _ => cases shows

end Session

/-- A session among files, what the line that showed the last view has printed and the rows of that
view, if there was one, and whether a reset was answered since. -/
structure Screen where
  session : Session
  files : FileTree
  shown : Option (LineResult × List Game)
  cleared : Bool

namespace Screen

def start (games : List Game) (order : SortOrder) (savePath : String) (files : FileTree) : Screen :=
  ⟨.start games order savePath, files, none, false⟩

/-- The screen after a command that has printed `result` and led to `session` and `files`. -/
def refresh (screen : Screen) (command : Command) (result : LineResult) (session : Session)
    (files : FileTree) : Screen :=
  if command.showsView then ⟨session, files, some (result, session.view), false⟩
  else ⟨session, files, screen.shown, screen.cleared || command = .reset⟩

/-- The screen after a line, unless the line leaves. A line that is no command changes nothing. -/
def next? (style : Style) (screen : Screen) (line : String) : Option Screen :=
  match Command.parse line with
  | .error _ => some screen
  | .ok command =>
    match screen.session.run style screen.files command with
    | (.leave, _, _) => none
    | (result, session, files) => some (screen.refresh command result session files)

/-- The screen after several lines, none of which leaves. -/
def after? (style : Style) (screen : Screen) : List String → Option Screen
  | [] => some screen
  | line :: lines => (screen.next? style line).bind fun next => next.after? style lines

@[simp] theorem refresh_session (screen : Screen) (command : Command) (result : LineResult)
    (session : Session) (files : FileTree) :
    (screen.refresh command result session files).session = session := by
  rw [refresh]
  split <;> rfl

@[simp] theorem refresh_files (screen : Screen) (command : Command) (result : LineResult)
    (session : Session) (files : FileTree) :
    (screen.refresh command result session files).files = files := by
  rw [refresh]
  split <;> rfl

/-- A line is a command that does not leave, or it is no command and changes nothing. -/
theorem next?_cases {style : Style} {screen next : Screen} {line : String}
    (step : screen.next? style line = some next) :
    (∃ error, Command.parse line = .error error ∧ next = screen) ∨
      ∃ command result session files, Command.parse line = .ok command ∧ result ≠ .leave ∧
        screen.session.run style screen.files command = (result, session, files) ∧
        next = screen.refresh command result session files := by
  rw [next?] at step
  cases read : Command.parse line with
  | error error =>
    rw [read] at step
    exact Or.inl ⟨error, rfl, (Option.some.inj step).symm⟩
  | ok command =>
    rw [read] at step
    rcases outcome : screen.session.run style screen.files command with ⟨result, session, files⟩
    simp only [outcome] at step
    refine Or.inr ⟨command, result, session, files, rfl, ?_, outcome, ?_⟩
    · rintro rfl
      cases step
    · cases result with
      | leave => cases step
      | _ => exact (Option.some.inj step).symm

theorem runLine_of_next? {style : Style} {screen next : Screen} {line : String}
    (step : screen.next? style line = some next) : ∃ result, result ≠ .leave ∧
      screen.session.runLine style screen.files line = (result, next.session, next.files) := by
  rcases next?_cases step with
    ⟨error, read, rfl⟩ | ⟨command, result, session, files, read, stays, outcome, rfl⟩
  · exact ⟨.misread error, by simp, by simp [Session.runLine, read]⟩
  · exact ⟨result, stays, by simp [Session.runLine, read, outcome]⟩

/-- Lines none of which leaves hand their session and files on to the lines after them. -/
theorem runScript_of_after? {style : Style} {screen last : Screen} {before : List String}
    (reached : screen.after? style before = some last) (lines : List String) :
    ∃ results, results.length = before.length ∧
      screen.session.runScript style screen.files (before ++ lines) =
        (results ++ (last.session.runScript style last.files lines).1,
          (last.session.runScript style last.files lines).2) := by
  induction before generalizing screen with
  | nil =>
    cases Option.some.inj reached
    exact ⟨[], rfl, rfl⟩
  | cons line before ih =>
    obtain ⟨next, step, rest⟩ := Option.bind_eq_some_iff.mp reached
    obtain ⟨results, length, tail⟩ := ih rest
    obtain ⟨result, stays, outcome⟩ := runLine_of_next? step
    refine ⟨(result, next.session) :: results, by simp [length], ?_⟩
    rw [List.cons_append, Session.runScript, outcome]
    cases result with
    | leave => exact absurd rfl stays
    | _ => simp only [tail, List.cons_append]

/-- The rows on the screen were printed, and are the view of some clauses in the current order. The
planner still holds those clauses, unless a reset has dropped them. -/
structure Sound (games : List Game) (style : Style) (screen : Screen) : Prop where
  base : screen.session.planner.games = games
  view : ∀ printed rows, screen.shown = some (printed, rows) → ∃ clauses rejected,
    printed = .shown (Session.ignoredText style rejected ++
      Session.viewText style ⟨games, clauses⟩ rows rejected) ∧
    rows = (⟨games, clauses⟩ : Planner).view screen.session.order ∧
    screen.session.planner = ⟨games, if screen.cleared then [] else clauses⟩

theorem sound_start (games : List Game) (order : SortOrder) (savePath : String)
    (files : FileTree) (style : Style) : (start games order savePath files).Sound games style :=
  ⟨rfl, fun _ _ shown => by cases shown⟩

/-- Every line keeps the screen sound. -/
theorem Sound.next? {games : List Game} {style : Style} {screen next : Screen} {line : String}
    (sound : screen.Sound games style) (step : screen.next? style line = some next) :
    next.Sound games style := by
  rcases next?_cases step with ⟨_, _, rfl⟩ | ⟨command, result, session, files, _, _, outcome, rfl⟩
  · exact sound
  have base : session.planner.games = games := by
    have kept := Session.games_run screen.session style screen.files command
    rw [outcome] at kept
    exact kept.trans sound.base
  refine ⟨by simpa using base, ?_⟩
  intro printed rows shown
  by_cases shows : command.showsView
  · obtain ⟨rejected, text⟩ := screen.session.run_of_showsView style screen.files shows
    rw [outcome] at text
    have planner : session.planner = ⟨games, session.planner.clauses⟩ := by rw [← base]
    simp only [refresh, shows, if_true, Option.some.injEq, Prod.mk.injEq] at shown ⊢
    obtain ⟨rfl, rfl⟩ := shown
    refine ⟨session.planner.clauses, rejected, ?_, ?_, planner⟩
    · rw [← planner]
      exact text
    · rw [← planner]
      rfl
  · have state := screen.session.run_of_not_showsView style screen.files shows
    simp only [outcome] at state
    obtain ⟨planner, order⟩ := state
    simp only [refresh, shows, if_false, Bool.false_eq_true] at shown ⊢
    obtain ⟨clauses, rejected, text, same, held⟩ := sound.view printed rows shown
    refine ⟨clauses, rejected, text, by rw [order]; exact same, ?_⟩
    by_cases resets : command = .reset
    · simp [planner, resets, held, Planner.reset]
    · simp [planner, resets, held]

theorem Sound.after? {games : List Game} {style : Style} {screen last : Screen}
    {lines : List String} (sound : screen.Sound games style)
    (reached : screen.after? style lines = some last) : last.Sound games style := by
  induction lines generalizing screen with
  | nil =>
    cases Option.some.inj reached
    exact sound
  | cons line lines ih =>
    obtain ⟨next, step, rest⟩ := Option.bind_eq_some_iff.mp reached
    exact ih (sound.next? step) rest

end Screen

end GameShelf
