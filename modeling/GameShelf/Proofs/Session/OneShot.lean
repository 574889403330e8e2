import GameShelf.CommandLine.Run
import GameShelf.Files.World
import GameShelf.Proofs.Filter.Expression
import GameShelf.Session.Script

namespace GameShelf

namespace Command

/-- The line that orders views by a column. -/
def sortLine (column : String) (descending : Bool) : String :=
  "sort " ++ column ++ if descending then " desc" else " asc"

def filterLine (expression : String) : String :=
  "filter " ++ expression

theorem isEmpty_trimmed_of_splitWord {line : String} {word rest : List Char} (nonempty : word ≠ [])
    (words : Text.splitWord (Text.trimmed line.toList) = (word, rest)) :
    (Text.trimmed line.toList).isEmpty = false := by
  rw [← Bool.not_eq_true, List.isEmpty_iff]
  intro nothing
  rw [nothing] at words
  exact nonempty (congrArg Prod.fst words).symm

theorem parse_filterLine (expression : String) :
    parse (filterLine expression) = .ok (.filter (Text.trim expression)) := by
  have words : Text.splitWord (Text.trimmed (filterLine expression).toList) =
      ("filter".toList, Text.trimmed expression.toList) := by
    have line : (filterLine expression).toList = "filter".toList ++ ' ' :: expression.toList := by
      rw [filterLine, String.toList_append]
      rfl
    rw [line]
    exact Text.splitWord_trimmed_append (by decide) (by decide) (by decide) expression.toList
  have keyword : verbs.lookup (Text.lower (String.ofList "filter".toList)) = some .filter := by
    decide
  simp only [parse, isEmpty_trimmed_of_splitWord (by decide) words, words, keyword]
  rfl

theorem parse_sortLine {column : String} (nonempty : column ≠ "")
    (solid : ∀ c ∈ column.toList, Text.isBlank c = false) (descending : Bool) :
    parse (sortLine column descending) = .ok (.sort column descending) := by
  have direction : ∃ word : String, (if descending then " desc" else " asc").toList =
      ' ' :: word.toList ∧ Text.trimmed word.toList = word.toList ∧
        descending? word = some descending := by
    cases descending
    · exact ⟨"asc", by decide⟩
    · exact ⟨"desc", by decide⟩
  obtain ⟨word, written, kept, read⟩ := direction
  have words : Text.splitWord (Text.trimmed (sortLine column descending).toList) =
      ("sort".toList, Text.trimmed (column.toList ++ ' ' :: word.toList)) := by
    have line : (sortLine column descending).toList =
        "sort".toList ++ ' ' :: (column.toList ++ ' ' :: word.toList) := by
      rw [sortLine, String.toList_append, String.toList_append, written, List.append_assoc]
      rfl
    rw [line]
    exact Text.splitWord_trimmed_append (by decide) (by decide) (by decide) _
  have filled : column.toList ≠ [] := fun nothing => nonempty (String.toList_eq_nil_iff.mp nothing)
  have arguments : Text.splitWord (Text.trimmed (column.toList ++ ' ' :: word.toList)) =
      (column.toList, word.toList) := by
    rw [Text.splitWord_trimmed_append filled (by simpa using solid) (by decide), kept]
  have keyword : verbs.lookup (Text.lower (String.ofList "sort".toList)) = some .sort := by
    decide
  simp only [parse, isEmpty_trimmed_of_splitWord (by decide) words, words, keyword, parseSort,
    arguments]
  simp [filled, read]

/-- The lines that ask a session for the view of one filter command. -/
def filterLines (expression : String) (sort : Option (String × Bool)) : List String :=
  (sort.map fun (column, descending) => sortLine column descending).toList ++
    [filterLine expression]

end Command

namespace Session

theorem runLine_filterLine (session : Session) (style : Style) (files : FileTree)
    (expression : String) :
    session.runLine style files (Command.filterLine expression) =
      let rejected := (session.planner.addFilters expression).2.map ClauseError.message
      let filtered := { session with planner := (session.planner.addFilters expression).1 }
      (.shown (ignoredText style rejected ++
        viewText style filtered.planner filtered.view rejected), filtered, files) := by
  simp only [runLine, Command.parse_filterLine, run, answer, Planner.addFilters_trim, showView]

theorem runLine_sortLine (session : Session) (style : Style) (files : FileTree) {column : String}
    (nonempty : column ≠ "") (solid : ∀ c ∈ column.toList, Text.isBlank c = false)
    (descending : Bool) :
    session.runLine style files (Command.sortLine column descending) =
      let sorted := { session with order := .resolve (some column) descending session.order }
      (.shown (ignoredText style [] ++ viewText style sorted.planner sorted.view []), sorted,
        files) := by
  simp only [runLine, Command.parse_sortLine nonempty solid, run, answer, showView]

/-- The lines of a filter leave the one order that is asked for, and the view of the clauses in it
comes last. -/
theorem runScript_filterLines (games : List Game) (order : SortOrder) (savePath : String)
    (style : Style) (files : FileTree) (expression : String) (sort : Option (String × Bool))
    (solid : ∀ column descending, sort = some (column, descending) →
      column ≠ "" ∧ ∀ c ∈ column.toList, Text.isBlank c = false) :
    ∃ earlier, earlier.length + 1 = (Command.filterLines expression sort).length ∧
      (start games order savePath).runScript style files (Command.filterLines expression sort) =
      let rejected := ((Planner.ofGames games).addFilters expression).2.map ClauseError.message
      let last : Session := { start games order savePath with
        planner := ((Planner.ofGames games).addFilters expression).1
        order := .resolve (sort.map Prod.fst) (sort.any Prod.snd) order }
      (earlier ++ [(.shown (ignoredText style rejected ++
        viewText style last.planner last.view rejected), last)], files) := by
  cases sort with
  | none =>
    refine ⟨[], rfl, ?_⟩
    simp only [Command.filterLines, Option.map_none, Option.toList_none, List.nil_append, runScript,
      runLine_filterLine]
    rfl
  | some request =>
    obtain ⟨column, descending⟩ := request
    obtain ⟨nonempty, filled⟩ := solid column descending rfl
    let first := (start games order savePath).runLine style files
      (Command.sortLine column descending)
    refine ⟨[(first.1, first.2.1)], rfl, ?_⟩
    simp only [first, Command.filterLines, Option.map_some, Option.toList_some, List.cons_append,
      List.nil_append, runScript, runLine_sortLine _ style files nonempty filled,
      runLine_filterLine]
    rfl

end Session

/-- Without a limit, and unless a table is held back or goes behind the clauses, a filter command
prints the view and complains of the dropped clauses. -/
theorem Run.filterTexts_of_plain {voice : Voice}
    (plain : voice.style.json = false → voice.quiet = false ∧ voice.verbose = false)
    (planner : Planner) (expression : String) (order : SortOrder) :
    filterTexts voice planner expression order none =
      let rejected := (planner.addFilters expression).2.map ClauseError.message
      (Session.viewText voice.style (planner.addFilters expression).1
          ((planner.addFilters expression).1.view order) rejected,
        Session.ignoredText voice.style rejected) := by
  cases json : voice.style.json with
  | true => simp [filterTexts, Session.ignoredText, json]
  | false =>
    obtain ⟨quiet, verbose⟩ := plain json
    simp [filterTexts, json, quiet, verbose]

/-- A filter command prints what the last line prints of a session over the same games that is given
the same column, direction and expression: the lines about dropped clauses and then the view, which
in JSON is all. Both have then read the same clauses, and the view is that of these clauses in the
order that was asked for. -/
theorem session_prints_one_shot_filter (games : List Game) (order : SortOrder) (savePath : String)
    (files : FileTree) (voice : Voice) (expression : String) (sort : Option (String × Bool))
    (solid : ∀ column descending, sort = some (column, descending) →
      column ≠ "" ∧ ∀ c ∈ column.toList, Text.isBlank c = false)
    (plain : voice.style.json = false → voice.quiet = false ∧ voice.verbose = false) :
    ∃ view ignored earlier last,
      Run.filterTexts voice (.ofGames games) expression
          (.resolve (sort.map Prod.fst) (sort.any Prod.snd) order) none = (view, ignored) ∧
      (∀ settings world, settings.sortOrder = order →
        ((Run.filter voice games settings expression (sort.map Prod.fst) (sort.any Prod.snd)
          none).perform world).2 =
            { world with output := world.output ++ view, errors := world.errors ++ ignored }) ∧
      earlier.length + 1 = (Command.filterLines expression sort).length ∧
      (Session.start games order savePath).runScript voice.style files
          (Command.filterLines expression sort) =
        (earlier ++ [(.shown (ignored ++ view), last)], files) ∧
      ignored = (if voice.style.json then "" else
        String.join (((Planner.ofGames games).addFilters expression).2.map fun error =>
          "Ignoring clause: " ++ error.message ++ "\n")) ∧
      last.planner = ((Planner.ofGames games).addFilters expression).1 ∧
      last.order = .resolve (sort.map Prod.fst) (sort.any Prod.snd) order ∧
      view =
        if voice.style.json then
          (Display.gamesJson (last.planner.view last.order) last.planner.activeTexts
            (((Planner.ofGames games).addFilters expression).2.map ClauseError.message)).prettyText
            ++ "\n"
        else Display.gamesTable voice.style.colors (last.planner.view last.order) := by
  obtain ⟨earlier, length, script⟩ := Session.runScript_filterLines games order savePath
    voice.style files expression sort solid
  refine ⟨_, _, earlier, _, Run.filterTexts_of_plain plain _ _ _, ?_, length, script, ?_, rfl, rfl,
    rfl⟩
  · rintro settings world rfl
    simp only [Run.filter, Run.filterTexts_of_plain plain]
    rfl
  · simp only [Session.ignoredText, List.map_map]
    rfl

def Game.chess : Game :=
  ⟨"Chess", 1, 2, 2, 20, 60, default, 80, default, 1475⟩

/-- A column in capitals, descending, and an expression between blanks with a segment that is no
clause. -/
theorem session_prints_one_shot_filter_by_rating :
    (∀ column descending, some ("RATING", true) = some (column, descending) →
        column ≠ "" ∧ ∀ c ∈ column.toList, Text.isBlank c = false) ∧
      ∃ view ignored earlier last,
        Run.filterTexts ⟨⟨false, true⟩, false, false⟩ (.ofGames [.chess]) " rank < 100, oops "
          ⟨.rating, false⟩ none = (view, ignored) ∧
        (∀ settings world, settings.sortOrder = .standard →
          ((Run.filter ⟨⟨false, true⟩, false, false⟩ [.chess] settings " rank < 100, oops "
            (some "RATING") true none).perform world).2 =
              { world with output := world.output ++ view, errors := world.errors ++ ignored }) ∧
        earlier.length + 1 = 2 ∧
        (Session.start [.chess] .standard "list.txt").runScript ⟨false, true⟩ .empty
            ["sort RATING desc", "filter  rank < 100, oops "] =
          (earlier ++ [(.shown (ignored ++ view), last)], .empty) ∧
        ignored = "Ignoring clause: no operator found in 'oops' " ++
          "(expected one of ==, !=, ~=, >=, <=, >, <)\n" ∧
        last.planner = ⟨[.chess], [⟨.rank, .less, "100"⟩]⟩ ∧ last.order = ⟨.rating, false⟩ ∧
        view =
          "\x1b[2m   #  Name                             Players      Time   Diff Rating   Rank" ++
            "   Year\x1b[0m\n\x1b[36m   1\x1b[39m  Chess                                  2" ++
            "     20-60    0.0    \x1b[2m0.0\x1b[0m     80   1475\n" := by
  have solid : ∀ column descending, some ("RATING", true) = some (column, descending) →
      column ≠ "" ∧ ∀ c ∈ column.toList, Text.isBlank c = false := by
    rintro column descending ⟨⟩
    have filled : "RATING".toList.all (fun c => !Text.isBlank c) = true := by decide
    refine ⟨by decide, fun c member => ?_⟩
    simpa using List.all_eq_true.mp filled c member
  have read : (Planner.ofGames [.chess]).addFilters " rank < 100, oops " =
      (⟨[.chess], [⟨.rank, .less, "100"⟩]⟩, [.missingOperator "oops"]) := by decide +kernel
  obtain ⟨view, ignored, earlier, last, texts, printed, length, script, reasons, clauses, order,
    table⟩ :=
    session_prints_one_shot_filter [.chess] .standard "list.txt" .empty
      ⟨⟨false, true⟩, false, false⟩ " rank < 100, oops " (some ("RATING", true)) solid
      fun _ => ⟨rfl, rfl⟩
  rw [read] at reasons clauses
  have shown : (⟨[.chess], [⟨.rank, .less, "100"⟩]⟩ : Planner).view ⟨.rating, false⟩ =
      [.chess] := by decide +kernel
  have resolved : SortOrder.resolve ((some ("RATING", true)).map Prod.fst)
      ((some ("RATING", true)).any Prod.snd) .standard = ⟨.rating, false⟩ := by decide +kernel
  have drawn : Display.gamesTable true [.chess] =
      "\x1b[2m   #  Name                             Players      Time   Diff Rating   Rank" ++
        "   Year\x1b[0m\n\x1b[36m   1\x1b[39m  Chess                                  2" ++
        "     20-60    0.0    \x1b[2m0.0\x1b[0m     80   1475\n" := by decide +kernel
  rw [resolved] at order
  rw [if_neg Bool.false_ne_true, clauses, order, shown, drawn] at table
  exact ⟨solid, view, ignored, earlier, last, texts, printed, length, script, reasons, clauses,
    order, table⟩

end GameShelf
