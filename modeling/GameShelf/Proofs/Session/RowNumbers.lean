import GameShelf.Proofs.Shortlist.Resolution
import GameShelf.Proofs.Text.Trimming
import GameShelf.Session.Script

namespace GameShelf

/-- A row number, or two with a dash between them. -/
def Positional (token : String) : Prop :=
  isDigits token.toList ∨ ∃ first last : List Char,
    isDigits first ∧ isDigits last ∧ token.toList = first ++ '-' :: last

/-- The change of a list by the rows that a token picks by their numbers. -/
def Shortlist.addRows (list : Shortlist) (token : String) (rows : List Game) : Shortlist.Change :=
  if rows.isEmpty then (list, .error .noCandidates)
  else match Selection.resolveNumber token rows.length with
    | .error error => (list, .error error)
    | .ok block => list.enlist ((block.of rows).map Game.name)

/-- What a line is to print, and the session after it, if its token picks from these rows. -/
def Session.addRows (session : Session) (token : String) (rows : List Game) :
    LineResult × Session :=
  match session.list.addRows token rows with
  | (_, .error error) => (.failed error, session)
  | (list, .ok n) => (.shown (countLine "Added" n list.count), { session with list := list })

namespace Positional

variable {token : String}

theorem digit_or_dash (positional : Positional token) :
    ∀ c ∈ token.toList, c.isDigit ∨ c = '-' := by
  rcases positional with digits | ⟨first, last, left, right, shape⟩
  · intro c member
    exact Or.inl ((isDigits_iff.mp digits).2 c member)
  · intro c member
    rw [shape, List.mem_append, List.mem_cons] at member
    rcases member with inFirst | rfl | inLast
    · exact Or.inl ((isDigits_iff.mp left).2 c inFirst)
    · exact Or.inr rfl
    · exact Or.inl ((isDigits_iff.mp right).2 c inLast)

theorem ne_nil (positional : Positional token) : token.toList ≠ [] := by
  rcases positional with digits | ⟨first, last, _, _, shape⟩
  · exact (isDigits_iff.mp digits).1
  · simp [shape]

theorem isBlank_eq_false (positional : Positional token) {c : Char} (member : c ∈ token.toList) :
    Text.isBlank c = false := by
  rcases positional.digit_or_dash c member with digit | rfl
  · exact Text.isBlank_of_isDigit digit
  · decide

theorem trim_eq (positional : Positional token) : Text.trim token = token := by
  have kept : Text.trimmed token.toList = token.toList :=
    Text.trimmed_eq_self (fun _ first => positional.isBlank_eq_false (List.mem_of_head? first))
      (fun _ last => positional.isBlank_eq_false (List.mem_of_getLast? last))
  rw [Text.trim, kept, String.ofList_toList]

theorem isAll_eq_false (positional : Positional token) : Selection.isAll token = false := by
  obtain ⟨c, rest, shape⟩ := List.exists_cons_of_ne_nil positional.ne_nil
  rw [Selection.isAll, Text.sameIgnoringAsciiCase, shape]
  have notLetter : c.toLower ≠ 'a' := by
    rcases positional.digit_or_dash c (shape ▸ List.mem_cons_self) with digit | rfl
    · rw [Text.toLower_of_isDigit digit]
      rintro rfl
      exact absurd digit (by decide)
    · decide
  simp [notLetter]

theorem trimmed_cons_append (positional : Positional token) {c : Char}
    (solid : Text.isBlank c = false) (cs : List Char) :
    Text.trimmed (c :: cs ++ token.toList) = c :: cs ++ token.toList := by
  refine Text.trimmed_eq_self ?_ ?_
  · intro first atStart
    cases Option.some.inj atStart
    exact solid
  · intro last atEnd
    rw [List.getLast?_append_of_ne_nil _ positional.ne_nil] at atEnd
    exact positional.isBlank_eq_false (List.mem_of_getLast? atEnd)

/-- The line that adds by a token. -/
theorem parse_listAdd (positional : Positional token) :
    Command.parse ("list add " ++ token) = .ok (.listAdd token) := by
  have line : Text.trimmed ("list add " ++ token).toList =
      "list".toList ++ ' ' :: ("add ".toList ++ token.toList) := by
    rw [String.toList_append]
    exact positional.trimmed_cons_append (by decide) "ist add ".toList
  have arguments : Text.trimmed ("add ".toList ++ token.toList) =
      "add".toList ++ ' ' :: token.toList :=
    positional.trimmed_cons_append (by decide) "dd ".toList
  have selection : Text.trimmed token.toList = token.toList := by
    rw [← Text.toList_trim, positional.trim_eq]
  have words : Text.splitWord ("list".toList ++ ' ' :: ("add ".toList ++ token.toList)) =
      ("list".toList, "add".toList ++ ' ' :: token.toList) := by
    rw [Text.splitWord_append (by decide) (by decide), arguments]
  have listWords : Text.splitWord ("add".toList ++ ' ' :: token.toList) =
      ("add".toList, token.toList) := by
    rw [Text.splitWord_append (by decide) (by decide), selection]
  have verb : Command.verbs.lookup (Text.lower "list") = some .list := by decide
  have listVerb : Command.listVerbs.lookup (Text.lower "add") = some .add := by decide
  have given : token.toList.isEmpty = false := List.isEmpty_eq_false_iff.mpr positional.ne_nil
  have filled : ("list".toList ++ ' ' :: ("add ".toList ++ token.toList)).isEmpty = false := rfl
  simp only [Command.parse, line, filled, words, verb, Command.parseList, listWords, listVerb,
    Command.parseSelection, given, Bool.false_eq_true, if_false, String.ofList_toList]

end Positional

namespace Selection

/-- Zero is out of every range. -/
theorem resolveNumber_of_zero {word : String} (digits : isDigits word.toList)
    (zero : digitsValue word.toList = 0) (len : Nat) :
    resolveNumber word len = .error (.indexOutOfRange 0 len) := by
  have index : Denotes word.toList 0 := ⟨digits, zero, by decide⟩
  rw [resolveNumber_of_index index, if_pos (Or.inl rfl)]

end Selection

/-- A token of digits that no candidate is named like picks by row number. -/
theorem Shortlist.addFrom_of_positional (list : Shortlist) {token : String} {rows : List Game}
    (positional : Positional token)
    (unnamed : ∀ game ∈ rows, Text.lower game.name ≠ Text.lower token) :
    list.addFrom token rows = list.addRows token rows := by
  have notBlank : token.isEmpty = false := by
    rw [← Bool.not_eq_true, String.isEmpty_iff]
    rintro rfl
    exact positional.ne_nil rfl
  have noName : Selection.findName? token (rows.map Game.name) = none := by
    refine Selection.findName?_eq_none_iff.mpr ?_
    intro name member
    obtain ⟨game, inRows, rfl⟩ := List.mem_map.mp member
    exact unnamed game inRows
  simp only [addFrom, addRows, positional.trim_eq, notBlank, positional.isAll_eq_false,
    Selection.resolve, noName, List.length_map, Bool.false_eq_true, if_false]
  split
  · rfl
  · cases Selection.resolveNumber token rows.length with
    | error error => rfl
    | ok block => simp only [Block.of_map]

theorem Shortlist.addRows_of_error {list : Shortlist} {token : String} {rows : List Game}
    {error : ShortlistError} (failed : (list.addRows token rows).2 = .error error) :
    (list.addRows token rows).1 = list := by
  rw [addRows] at failed ⊢
  split
  · rfl
  · rename_i some
    simp only [some, if_false, Bool.false_eq_true] at failed
    cases outcome : Selection.resolveNumber token rows.length with
    | error _ => rfl
    | ok block =>
      rw [outcome] at failed
      cases failed

namespace Session

/-- `list add` looks at the view that the session has by then, whatever was shown. -/
theorem run_listAdd_of_positional (session : Session) (style : Style) (files : FileTree)
    {token : String} (positional : Positional token)
    (unnamed : ∀ game ∈ session.view, Text.lower game.name ≠ Text.lower token) :
    session.run style files (.listAdd token) =
      ((session.addRows token session.view).1, (session.addRows token session.view).2, files) := by
  rw [run, answer, session.list.addFrom_of_positional positional unnamed, addRows]
  rcases outcome : session.list.addRows token session.view with ⟨list, error | n⟩
  · have unchanged := Shortlist.addRows_of_error (congrArg Prod.snd outcome)
    rw [outcome] at unchanged
    cases unchanged
    rfl
  · rfl

theorem addRows_of_zero {session : Session} {token : String} {rows : List Game}
    (digits : isDigits token.toList) (zero : digitsValue token.toList = 0) :
    session.addRows token rows =
      (.failed (if rows.isEmpty then .noCandidates else .indexOutOfRange 0 rows.length),
        session) := by
  rw [addRows, Shortlist.addRows, Selection.resolveNumber_of_zero digits zero]
  cases rows <;> rfl

theorem head_runScript (session : Session) (style : Style) (files : FileTree) (line : String)
    (lines : List String) :
    (session.runScript style files (line :: lines)).1[0]? =
      some ((session.runLine style files line).1, (session.runLine style files line).2.1) := by
  rw [runScript]
  split
  · rename_i outcome
    rw [outcome]
    rfl
  · rename_i outcome
    rw [outcome]
    rfl

end Session

end GameShelf
