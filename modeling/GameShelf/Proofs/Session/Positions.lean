import GameShelf.Proofs.Session.RowNumbers
import GameShelf.Proofs.Session.Screen
import GameShelf.Proofs.Text.Caseless

namespace GameShelf

namespace Screen

variable {games rows : List Game} {style : Style} {screen : Screen} {printed : LineResult}

/-- The view is still the one that was shown if no reset came between, or if the reset had nothing
to bring back. -/
theorem Sound.view_eq_rows (sound : screen.Sound games style)
    (shown : screen.shown = some (printed, rows))
    (kept : screen.cleared = false ∨ rows.length = games.length) : screen.session.view = rows := by
  obtain ⟨clauses, _, _, same, planner⟩ := sound.view printed rows shown
  rw [Session.view, planner]
  by_cases cleared : screen.cleared
  · have length : rows.length = games.length := by simpa [cleared] using kept
    rw [if_pos cleared, Planner.view_of_no_clauses, same]
    rw [same] at length
    exact (Planner.view_of_length_eq length).symm
  · rw [if_neg cleared, same]

theorem Sound.length_view (sound : screen.Sound games style)
    (shown : screen.shown = some (printed, rows)) (cleared : screen.cleared = true) :
    screen.session.view.length = games.length := by
  obtain ⟨_, _, _, _, planner⟩ := sound.view printed rows shown
  rw [Session.view, planner, if_pos cleared, Planner.view_of_no_clauses, SortOrder.sort,
    List.length_mergeSort]

theorem Sound.length_rows_le (sound : screen.Sound games style)
    (shown : screen.shown = some (printed, rows)) : rows.length ≤ games.length := by
  obtain ⟨clauses, _, _, same, _⟩ := sound.view printed rows shown
  rw [same]
  exact Planner.length_view_le ⟨games, clauses⟩ screen.session.order

/-- There is a row of zeros that is longer than every given name. -/
theorem exists_zeros_unlike (names : List String) : ∃ token : String,
    isDigits token.toList ∧ digitsValue token.toList = 0 ∧
      ∀ name ∈ names, Text.lower name ≠ Text.lower token := by
  let letters := (names.map String.toList).flatten
  let zeros := List.replicate (letters.length + 1) '0'
  refine ⟨String.ofList zeros, ?_, ?_, ?_⟩
  · simp [isDigits, zeros]
  · rw [String.toList_ofList]
    exact digitsValue_replicate_zero (letters.length + 1)
  · intro name member same
    have marks : ∀ c ∈ (String.ofList zeros).toList, Text.isMark c := by simp [zeros, Text.isMark]
    have named : name = String.ofList zeros := (Text.lower_eq_iff_of_isMark marks).mp same
    have among : name.toList ∈ names.map String.toList := List.mem_map_of_mem member
    have bound : name.toList.length ≤ letters.length :=
      (List.sublist_flatten_of_mem among).length_le
    rw [named, String.toList_ofList, List.length_replicate] at bound
    omega

/-- After a reset that brought rows back, a row of zeros is out of another range than the rows that
are still shown. -/
theorem Sound.kept_of_addRows_eq (sound : screen.Sound games style)
    (shown : screen.shown = some (printed, rows)) {token : String}
    (digits : isDigits token.toList) (zero : digitsValue token.toList = 0)
    (same : screen.session.addRows token screen.session.view = screen.session.addRows token rows) :
    screen.cleared = false ∨ rows.length = games.length := by
  by_contra changed
  obtain ⟨cleared, fewer⟩ := not_or.mp changed
  have viewLength := sound.length_view shown (by simpa using cleared)
  have atMost := sound.length_rows_le shown
  simp only [Session.addRows_of_zero digits zero, Prod.mk.injEq, LineResult.failed.injEq,
    and_true] at same
  cases seen : screen.session.view with
  | nil =>
    rw [seen, List.length_nil] at viewLength
    omega
  | cons game view =>
    rw [seen] at same viewLength
    cases rows with
    | nil => cases same
    | cons row rows =>
      simp only [List.isEmpty_cons, Bool.false_eq_true, if_false,
        ShortlistError.indexOutOfRange.injEq, true_and] at same
      omega

/-- In a script, `list add` picks from the view of the session that the lines before it have
left. -/
theorem runScript_listAdd {first : Screen} {before : List String} {line token : String}
    (reached : first.after? style before = some screen)
    (read : Command.parse line = .ok (.listAdd token)) (positional : Positional token)
    (unnamed : ∀ game ∈ screen.session.view, Text.lower game.name ≠ Text.lower token)
    (rest : List String) :
    (first.session.runScript style first.files (before ++ line :: rest)).1[before.length]? =
      some (screen.session.addRows token screen.session.view) := by
  obtain ⟨results, length, whole⟩ := runScript_of_after? reached (line :: rest)
  have head := screen.session.head_runScript style screen.files line rest
  have answer := screen.session.run_listAdd_of_positional style screen.files positional unnamed
  rw [whole, ← length, List.getElem?_append_right le_rfl, Nat.sub_self, head, Session.runLine,
    read]
  simp only [answer]

end Screen

/-- The rows of the last view are the ones that were printed; and the positions of `list add` lines
refer to them exactly if no reset came after that view, or if it had all games anyway. -/
theorem list_add_positions_iff {games : List Game} {order : SortOrder} {savePath : String}
    {files : FileTree} {style : Style} {before : List String} {screen : Screen}
    {printed : LineResult} {rows : List Game}
    (reached : (Screen.start games order savePath files).after? style before = some screen)
    (shown : screen.shown = some (printed, rows)) :
    (∃ clauses rejected, printed = .shown (Session.ignoredText style rejected ++
        Session.viewText style ⟨games, clauses⟩ rows rejected)) ∧
      ((∀ line token rest, Command.parse line = .ok (.listAdd token) → Positional token →
          (∀ game ∈ rows, Text.lower game.name ≠ Text.lower token) →
          ((Session.start games order savePath).runScript style files
              (before ++ line :: rest)).1[before.length]? =
            some (screen.session.addRows token rows)) ↔
        screen.cleared = false ∨ rows.length = games.length) := by
  have sound : screen.Sound games style :=
    (Screen.sound_start games order savePath files style).after? reached
  obtain ⟨clauses, rejected, text, _⟩ := sound.view printed rows shown
  refine ⟨⟨clauses, rejected, text⟩, ?_, ?_⟩
  · intro positions
    obtain ⟨token, digits, zero, unlike⟩ :=
      Screen.exists_zeros_unlike ((screen.session.view ++ rows).map Game.name)
    have positional : Positional token := Or.inl digits
    have read := positional.parse_listAdd
    have unnamed : ∀ game ∈ screen.session.view ++ rows,
        Text.lower game.name ≠ Text.lower token := by
      intro game member
      exact unlike game.name (List.mem_map_of_mem member)
    have byView := Screen.runScript_listAdd reached read positional (fun game member =>
      unnamed game (List.mem_append_left _ member)) []
    have byRows := positions _ token [] read positional fun game member =>
      unnamed game (List.mem_append_right _ member)
    exact sound.kept_of_addRows_eq shown digits zero
      (Option.some.inj (byView.symm.trans byRows))
  · intro kept line token rest read positional unnamed
    have same := sound.view_eq_rows shown kept
    rw [← same] at unnamed ⊢
    exact Screen.runScript_listAdd reached read positional unnamed rest

def Game.azul : Game :=
  ⟨"Azul", 1, 2, 4, 30, 45, default, 60, default, 2017⟩

def Game.go : Game :=
  ⟨"Go", 2, 2, 2, 30, 180, default, 90, default, -2200⟩

/-- A filter shows `Go` alone, and a reset brings `Azul` back without showing it. -/
theorem Screen.after_filter_and_reset :
    (start [.azul, .go] .standard "list.txt" .empty).after? ⟨false, false⟩
        ["filter name==Go", "reset"] =
      some ⟨.start [.azul, .go] .standard "list.txt", .empty,
        some (.shown (Display.gamesTable false [.go]), [.go]), true⟩ := by
  have readFilter : Command.parse "filter name==Go" = .ok (.filter "name==Go") := rfl
  have readReset : Command.parse "reset" = .ok .reset := rfl
  have added : (⟨[.azul, .go], []⟩ : Planner).addFilters "name==Go" =
      (⟨[.azul, .go], [⟨.name, .equals, "Go"⟩]⟩, []) := by decide +kernel
  have view : (⟨[.azul, .go], [⟨.name, .equals, "Go"⟩]⟩ : Planner).view .standard = [.go] := by
    decide +kernel
  have printed (clauses : List Clause) :
      Session.ignoredText ⟨false, false⟩ [] ++
        Session.viewText ⟨false, false⟩ ⟨[.azul, .go], clauses⟩ [.go] [] =
      Display.gamesTable false [.go] := String.empty_append
  simp [after?, next?, readFilter, readReset, Session.run, Session.answer, start, Session.start,
    added, Session.showView, refresh, Command.showsView, Session.view, view, Planner.reset,
    Planner.ofGames, printed]

theorem list_add_positions_iff_after_filter_and_reset :
    (∃ clauses rejected, LineResult.shown (Display.gamesTable false [.go]) =
        .shown (Session.ignoredText ⟨false, false⟩ rejected ++
          Session.viewText ⟨false, false⟩ ⟨[.azul, .go], clauses⟩ [.go] rejected)) ∧
      ((∀ line token rest, Command.parse line = .ok (.listAdd token) → Positional token →
          (∀ game ∈ [Game.go], Text.lower game.name ≠ Text.lower token) →
          ((Session.start [.azul, .go] .standard "list.txt").runScript ⟨false, false⟩ .empty
              (["filter name==Go", "reset"] ++ line :: rest)).1[2]? =
            some ((Session.start [.azul, .go] .standard "list.txt").addRows token [.go])) ↔
        true = false ∨ [Game.go].length = [Game.azul, Game.go].length) :=
  list_add_positions_iff Screen.after_filter_and_reset rfl

/-- Row 1 of the shown view is `Go`, but after the reset it is `Azul` that is added. -/
theorem list_add_after_reset :
    (Screen.start [.azul, .go] .standard "list.txt" .empty).after? ⟨false, false⟩
          ["filter name==Go", "reset"] =
        some ⟨.start [.azul, .go] .standard "list.txt", .empty,
          some (.shown (Display.gamesTable false [.go]), [.go]), true⟩ ∧
      Positional "1" ∧ Text.lower Game.go.name ≠ Text.lower "1" ∧
      ((Session.start [.azul, .go] .standard "list.txt").addRows "1" [.go]).2.list.names =
        ["Go"] ∧
      (((Session.start [.azul, .go] .standard "list.txt").runScript ⟨false, false⟩ .empty
          ["filter name==Go", "reset", "list add 1"]).1[2]?.map fun step => step.2.list.names) =
        some ["Azul"] := by
  have positional : Positional "1" := Or.inl (by decide)
  have read : Command.parse "list add 1" = .ok (.listAdd "1") := rfl
  have view : (Session.start [.azul, .go] .standard "list.txt").view = [.azul, .go] := by
    exact List.mergeSort_of_pairwise (by decide)
  have added := Screen.runScript_listAdd Screen.after_filter_and_reset read positional
    (by rw [view]; decide) []
  refine ⟨Screen.after_filter_and_reset, positional, by decide, by decide +kernel, ?_⟩
  refine (congrArg (Option.map fun step => step.2.list.names) added).trans ?_
  rw [view]
  decide +kernel

end GameShelf
