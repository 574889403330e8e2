import GameShelf.Proofs.Session.Keywords

namespace GameShelf.Command

/-- The commands that are a verb alone. -/
def Verb.command? : Verb → Option Command
  | view => some .view
  | filters => some .filters
  | reset => some .reset
  | columns => some .columns
  | help => some .help
  | exit => some .exit
  | filter | sort | list => none

def ListVerb.command? : ListVerb → Option Command
  | view => some .listShow
  | count => some .listCount
  | clear => some .listClear
  | add | remove | save => none

/-- The commands that need a selection, with the name by which one is asked for. -/
def ListVerb.picker? : ListVerb → Option (String × (String → Command))
  | add => some ("list add", .listAdd)
  | remove => some ("list remove", .listRemove)
  | view | count | clear | save => none

/-- What may stand behind a command: nothing, or any text. -/
def IsTrail (parts : List (List Char)) : Prop :=
  parts = [] ∨ ∃ text, parts = [text] ∧ Text.IsPhrase text

/-- What the parts of a line are read as. -/
inductive Reads : List (List Char) → Except CommandError Command → Prop
  | nothing : Reads [] (.ok .empty)
  | alone {word : List Char} {trail : List (List Char)} {verb : Verb} {command : Command}
      (spells : Spells word verb.keywords) (alone : verb.command? = some command)
      (behind : IsTrail trail) : Reads (word :: trail) (.ok command)
  | filterNothing {word : List Char} (spells : Spells word Verb.filter.keywords) :
      Reads [word] (.ok (.filter ""))
  | filter {word expression : List Char} (spells : Spells word Verb.filter.keywords)
      (phrase : Text.IsPhrase expression) :
      Reads [word, expression] (.ok (.filter (String.ofList expression)))
  | sort {word column : List Char} (spells : Spells word Verb.sort.keywords)
      (isWord : Text.IsWord column) :
      Reads [word, column] (.ok (.sort (String.ofList column) false))
  | sortDirected {word column direction : List Char} {descending : Bool}
      (spells : Spells word Verb.sort.keywords) (isWord : Text.IsWord column)
      (directs : Spells direction [directionKeyword descending]) :
      Reads [word, column, direction] (.ok (.sort (String.ofList column) descending))
  | list {word : List Char} (spells : Spells word Verb.list.keywords) :
      Reads [word] (.ok .listShow)
  | listAlone {word second : List Char} {trail : List (List Char)} {verb : ListVerb}
      {command : Command} (spells : Spells word Verb.list.keywords)
      (spellsToo : Spells second verb.keywords) (alone : verb.command? = some command)
      (behind : IsTrail trail) : Reads (word :: second :: trail) (.ok command)
  | listPick {word second selection : List Char} {verb : ListVerb} {name : String}
      {command : String → Command} (spells : Spells word Verb.list.keywords)
      (spellsToo : Spells second verb.keywords) (picks : verb.picker? = some (name, command))
      (phrase : Text.IsPhrase selection) :
      Reads [word, second, selection] (.ok (command (String.ofList selection)))
  | listSave {word second : List Char} (spells : Spells word Verb.list.keywords)
      (spellsToo : Spells second ListVerb.save.keywords) :
      Reads [word, second] (.ok (.listSave none))
  | listSaveTo {word second path : List Char} (spells : Spells word Verb.list.keywords)
      (spellsToo : Spells second ListVerb.save.keywords) (phrase : Text.IsPhrase path) :
      Reads [word, second, path] (.ok (.listSave (some (String.ofList path))))
  | columnMissing {word : List Char} (spells : Spells word Verb.sort.keywords) :
      Reads [word] (.error (.missingArgument "sort"))
  | selectionMissing {word second : List Char} {verb : ListVerb} {name : String}
      {command : String → Command} (spells : Spells word Verb.list.keywords)
      (spellsToo : Spells second verb.keywords) (picks : verb.picker? = some (name, command)) :
      Reads [word, second] (.error (.missingArgument name))
  | directionUnknown {word column direction : List Char}
      (spells : Spells word Verb.sort.keywords) (isWord : Text.IsWord column)
      (phrase : Text.IsPhrase direction)
      (unknown : ∀ descending, ¬ Spells direction [directionKeyword descending]) :
      Reads [word, column, direction] (.error (.invalidDirection (String.ofList direction)))
  | unknown {word : List Char} {trail : List (List Char)} (isWord : Text.IsWord word)
      (unknown : ∀ verb : Verb, ¬ Spells word verb.keywords) (behind : IsTrail trail) :
      Reads (word :: trail) (.error (.unknownCommand (String.ofList word)))
  | listUnknown {word second : List Char} {trail : List (List Char)}
      (spells : Spells word Verb.list.keywords) (isWord : Text.IsWord second)
      (unknown : ∀ verb : ListVerb, ¬ Spells second verb.keywords) (behind : IsTrail trail) :
      Reads (word :: second :: trail)
        (.error (.unknownCommand ("list " ++ Text.lower (String.ofList second))))

/-- The texts of a command are trimmed. A column has no white space in it, and no text is empty but
that of a filter. -/
def IsProper : Command → Prop
  | .filter expression => Text.trim expression = expression
  | .sort column _ => Text.IsWord column.toList
  | .listAdd selection => Text.IsPhrase selection.toList
  | .listRemove selection => Text.IsPhrase selection.toList
  | .listSave (some path) => Text.IsPhrase path.toList
  | _ => True

section Lines

variable {line : String} {word second rest : List Char} {parts : List (List Char)}

theorem IsTrail.phrases {trail : List (List Char)} (behind : IsTrail trail) :
    ∀ part ∈ trail, Text.IsPhrase part := by
  rcases behind with rfl | ⟨text, rfl, phrase⟩
  · exact List.forall_mem_nil _
  · exact List.forall_mem_singleton.mpr phrase

/-- What is left of a line, taken as one part if it is anything at all. -/
theorem exists_trail (trimmed : Text.trimmed rest = rest) :
    ∃ trail, IsTrail trail ∧ Text.Spaced trail rest := by
  by_cases nothing : rest = []
  · exact ⟨[], Or.inl rfl, Text.spaced_nil_iff.mpr nothing⟩
  · exact ⟨[rest], Or.inr ⟨rest, rfl, nothing, trimmed⟩, .single rest⟩

/-- What the rest of a line is read as behind its first word. -/
def Verb.read (verb : Verb) (rest : List Char) : Except CommandError Command :=
  match verb with
  | filter => .ok (.filter (String.ofList rest))
  | sort => parseSort rest
  | list => parseList rest
  | view => .ok .view
  | filters => .ok .filters
  | reset => .ok .reset
  | columns => .ok .columns
  | help => .ok .help
  | exit => .ok .exit

/-- What the rest of a line is read as behind `list` and a second word. -/
def ListVerb.read (verb : ListVerb) (argument : List Char) : Except CommandError Command :=
  match verb with
  | add => parseSelection "list add" .listAdd argument
  | remove => parseSelection "list remove" .listRemove argument
  | view => .ok .listShow
  | count => .ok .listCount
  | clear => .ok .listClear
  | save => .ok (.listSave (if argument.isEmpty then none else some (String.ofList argument)))

theorem Verb.read_alone {verb : Verb} {command : Command} (alone : verb.command? = some command) :
    verb.read rest = .ok command := by
  cases verb <;> cases alone <;> rfl

theorem ListVerb.read_alone {verb : ListVerb} {command : Command}
    (alone : verb.command? = some command) : verb.read rest = .ok command := by
  cases verb <;> cases alone <;> rfl

theorem ListVerb.read_picks {verb : ListVerb} {name : String} {command : String → Command}
    (picks : verb.picker? = some (name, command)) :
    verb.read rest = parseSelection name command rest := by
  cases verb <;> cases picks <;> rfl

theorem parse_of_trimmed_nil (nothing : Text.trimmed line.toList = []) :
    parse line = .ok .empty := by
  simp only [parse, nothing, List.isEmpty_nil, if_true]

theorem parse_of_spells {verb : Verb} (filled : Text.trimmed line.toList ≠ [])
    (split : Text.splitWord (Text.trimmed line.toList) = (word, rest))
    (spells : Spells word verb.keywords) : parse line = verb.read rest := by
  simp only [parse, List.isEmpty_eq_false_iff.mpr filled, split, lookup_verbs_iff.mpr spells,
    Bool.false_eq_true, if_false]
  cases verb <;> simp only [Verb.read]

theorem parse_of_unknown (filled : Text.trimmed line.toList ≠ [])
    (split : Text.splitWord (Text.trimmed line.toList) = (word, rest))
    (unknown : ∀ verb : Verb, ¬ Spells word verb.keywords) :
    parse line = .error (.unknownCommand (String.ofList word)) := by
  have missing : verbs.lookup (Text.lower (String.ofList word)) = none :=
    Option.eq_none_iff_forall_ne_some.mpr fun verb found =>
      unknown verb (lookup_verbs_iff.mp found)
  simp only [parse, List.isEmpty_eq_false_iff.mpr filled, split, missing]
  rfl

theorem parseList_nil : parseList [] = .ok .listShow := by
  decide

theorem parseList_of_spells {verb : ListVerb} {argument : List Char} (filled : second ≠ [])
    (split : Text.splitWord rest = (second, argument)) (spells : Spells second verb.keywords) :
    parseList rest = verb.read argument := by
  simp only [parseList, split, (lookup_listVerbs_iff filled).mpr spells]
  cases verb <;> rfl

theorem parseList_of_unknown {argument : List Char} (filled : second ≠ [])
    (split : Text.splitWord rest = (second, argument))
    (unknown : ∀ verb : ListVerb, ¬ Spells second verb.keywords) :
    parseList rest =
      .error (.unknownCommand ("list " ++ Text.lower (String.ofList second))) := by
  have missing : listVerbs.lookup (Text.lower (String.ofList second)) = none :=
    Option.eq_none_iff_forall_ne_some.mpr fun verb found =>
      unknown verb ((lookup_listVerbs_iff filled).mp found)
  simp only [parseList, split, missing]

theorem parseSort_nil : parseSort [] = .error (.missingArgument "sort") :=
  rfl

/-- What a direction is read as behind `sort` and a column. -/
def sortBy (column direction : List Char) : Except CommandError Command :=
  match descending? (String.ofList direction) with
  | some descending => .ok (.sort (String.ofList column) descending)
  | none => .error (.invalidDirection (String.ofList direction))

theorem parseSort_eq_sortBy {column direction : List Char} (filled : column ≠ [])
    (split : Text.splitWord rest = (column, direction)) :
    parseSort rest = sortBy column direction := by
  simp only [parseSort, split, List.isEmpty_eq_false_iff.mpr filled, Bool.false_eq_true, if_false]
  rfl

theorem descending?_eq_none {direction : List Char} (filled : direction ≠ [])
    (unknown : ∀ descending, ¬ Spells direction [directionKeyword descending]) :
    descending? (String.ofList direction) = none := by
  refine Option.eq_none_iff_forall_ne_some.mpr fun descending found => ?_
  rcases descending?_iff.mp found with ⟨nothing, -⟩ | spells
  · exact filled nothing
  · exact unknown descending spells

/-- The first word of a line is split off, and the other parts are left in their row. -/
theorem exists_splitWord_of_laid (laid : Text.Laid (word :: parts) line.toList)
    (isWord : Text.IsWord word) (phrases : ∀ part ∈ parts, Text.IsPhrase part) :
    ∃ rest, Text.Spaced parts rest ∧ Text.trimmed line.toList ≠ [] ∧
      Text.splitWord (Text.trimmed line.toList) = (word, rest) := by
  have every : ∀ part ∈ word :: parts, Text.IsPhrase part :=
    List.forall_mem_cons.mpr ⟨isWord.isPhrase, phrases⟩
  have row := laid.spaced every
  obtain ⟨rest, split, spaced⟩ := row.splitWord isWord phrases
  exact ⟨rest, spaced, (row.isPhrase every).1, split⟩

/-- A line that begins with a keyword. -/
theorem exists_parse_eq {verb : Verb} (laid : Text.Laid (word :: parts) line.toList)
    (spells : Spells word verb.keywords) (phrases : ∀ part ∈ parts, Text.IsPhrase part) :
    ∃ rest, Text.Spaced parts rest ∧ parse line = verb.read rest := by
  obtain ⟨rest, spaced, filled, split⟩ :=
    exists_splitWord_of_laid laid (spells.isWord verb.areKeywords_keywords) phrases
  exact ⟨rest, spaced, parse_of_spells filled split spells⟩

/-- A line that begins with `list` and a keyword. -/
theorem exists_parse_list_eq {verb : ListVerb}
    (laid : Text.Laid (word :: second :: parts) line.toList)
    (spells : Spells word Verb.list.keywords) (spellsToo : Spells second verb.keywords)
    (phrases : ∀ part ∈ parts, Text.IsPhrase part) :
    ∃ argument, Text.Spaced parts argument ∧ parse line = verb.read argument := by
  have isWord := spellsToo.isWord verb.areKeywords_keywords
  obtain ⟨rest, spaced, parsed⟩ :=
    exists_parse_eq laid spells (List.forall_mem_cons.mpr ⟨isWord.isPhrase, phrases⟩)
  obtain ⟨argument, split, behind⟩ := spaced.splitWord isWord phrases
  rw [Verb.read, parseList_of_spells isWord.1 split spellsToo] at parsed
  exact ⟨argument, behind, parsed⟩

/-- A line that begins with `sort` and a column. -/
theorem exists_parse_sort_eq {column : List Char}
    (laid : Text.Laid (word :: column :: parts) line.toList)
    (spells : Spells word Verb.sort.keywords) (isWord : Text.IsWord column)
    (phrases : ∀ part ∈ parts, Text.IsPhrase part) :
    ∃ direction, Text.Spaced parts direction ∧ parse line = sortBy column direction := by
  obtain ⟨rest, spaced, parsed⟩ :=
    exists_parse_eq laid spells (List.forall_mem_cons.mpr ⟨isWord.isPhrase, phrases⟩)
  obtain ⟨direction, split, behind⟩ := spaced.splitWord isWord phrases
  rw [Verb.read, parseSort_eq_sortBy isWord.1 split] at parsed
  exact ⟨direction, behind, parsed⟩

/-- The words in front of a row are split off one by one, and what is left of the line is the row of
the other parts. -/
theorem parse_of_reads {result : Except CommandError Command} (reads : Reads parts result)
    (laid : Text.Laid parts line.toList) : parse line = result := by
  have none : ∀ part ∈ ([] : List (List Char)), Text.IsPhrase part := List.forall_mem_nil _
  cases reads with
  | nothing => exact parse_of_trimmed_nil (Text.spaced_nil_iff.mp (laid.spaced none))
  | alone spells alone behind =>
    obtain ⟨rest, -, parsed⟩ := exists_parse_eq laid spells behind.phrases
    exact parsed.trans (Verb.read_alone alone)
  | filterNothing spells =>
    obtain ⟨rest, spaced, parsed⟩ := exists_parse_eq laid spells none
    rw [parsed, Text.spaced_nil_iff.mp spaced]
    rfl
  | filter spells phrase =>
    obtain ⟨rest, spaced, parsed⟩ :=
      exists_parse_eq laid spells (List.forall_mem_singleton.mpr phrase)
    rw [parsed, Text.spaced_single_iff.mp spaced]
    rfl
  | sort spells isWord =>
    obtain ⟨direction, spaced, parsed⟩ := exists_parse_sort_eq laid spells isWord none
    rw [parsed, sortBy, descending?_iff.mpr (Or.inl ⟨Text.spaced_nil_iff.mp spaced, rfl⟩)]
  | sortDirected spells isWord directs =>
    have phrase := (directs.isWord (areKeywords_direction _)).isPhrase
    obtain ⟨direction, spaced, parsed⟩ :=
      exists_parse_sort_eq laid spells isWord (List.forall_mem_singleton.mpr phrase)
    rw [parsed, Text.spaced_single_iff.mp spaced, sortBy, descending?_iff.mpr (Or.inr directs)]
  | list spells =>
    obtain ⟨rest, spaced, parsed⟩ := exists_parse_eq laid spells none
    rw [parsed, Text.spaced_nil_iff.mp spaced, Verb.read, parseList_nil]
  | listAlone spells spellsToo alone behind =>
    obtain ⟨argument, -, parsed⟩ :=
      exists_parse_list_eq laid spells spellsToo behind.phrases
    exact parsed.trans (ListVerb.read_alone alone)
  | listPick spells spellsToo picks phrase =>
    obtain ⟨argument, spaced, parsed⟩ :=
      exists_parse_list_eq laid spells spellsToo (List.forall_mem_singleton.mpr phrase)
    rw [parsed, ListVerb.read_picks picks, Text.spaced_single_iff.mp spaced, parseSelection,
      List.isEmpty_eq_false_iff.mpr phrase.1]
    rfl
  | listSave spells spellsToo =>
    obtain ⟨argument, spaced, parsed⟩ := exists_parse_list_eq laid spells spellsToo none
    rw [parsed, Text.spaced_nil_iff.mp spaced]
    rfl
  | listSaveTo spells spellsToo phrase =>
    obtain ⟨argument, spaced, parsed⟩ :=
      exists_parse_list_eq laid spells spellsToo (List.forall_mem_singleton.mpr phrase)
    rw [parsed, Text.spaced_single_iff.mp spaced, ListVerb.read,
      List.isEmpty_eq_false_iff.mpr phrase.1]
    rfl
  | columnMissing spells =>
    obtain ⟨rest, spaced, parsed⟩ := exists_parse_eq laid spells none
    rw [parsed, Text.spaced_nil_iff.mp spaced, Verb.read, parseSort_nil]
  | selectionMissing spells spellsToo picks =>
    obtain ⟨argument, spaced, parsed⟩ := exists_parse_list_eq laid spells spellsToo none
    rw [parsed, ListVerb.read_picks picks, Text.spaced_nil_iff.mp spaced]
    rfl
  | directionUnknown spells isWord phrase unknown =>
    obtain ⟨direction, spaced, parsed⟩ :=
      exists_parse_sort_eq laid spells isWord (List.forall_mem_singleton.mpr phrase)
    rw [parsed, Text.spaced_single_iff.mp spaced, sortBy,
      descending?_eq_none phrase.1 unknown]
  | unknown isWord unknown behind =>
    obtain ⟨rest, -, filled, split⟩ := exists_splitWord_of_laid laid isWord behind.phrases
    exact parse_of_unknown filled split unknown
  | listUnknown spells isWord unknown behind =>
    obtain ⟨rest, spaced, parsed⟩ :=
      exists_parse_eq laid spells (List.forall_mem_cons.mpr ⟨isWord.isPhrase, behind.phrases⟩)
    obtain ⟨argument, split, -⟩ := spaced.splitWord isWord behind.phrases
    rw [parsed, Verb.read, parseList_of_unknown isWord.1 split unknown]

/-- The rest of a line is a row of parts, and with those in front of it the row has this meaning. -/
def ReadsBehind (front : List (List Char)) (rest : List Char)
    (result : Except CommandError Command) : Prop :=
  ∃ parts, (∀ part ∈ parts, Text.IsPhrase part) ∧ Text.Spaced parts rest ∧
    Reads (front ++ parts) result

section Rests

variable {front : List (List Char)} {result : Except CommandError Command}

theorem ReadsBehind.of_nil (reads : Reads front result) : ReadsBehind front [] result :=
  ⟨[], List.forall_mem_nil _, .nil, (List.append_nil front).symm ▸ reads⟩

theorem ReadsBehind.of_phrase (phrase : Text.IsPhrase rest)
    (reads : Reads (front ++ [rest]) result) : ReadsBehind front rest result :=
  ⟨[rest], List.forall_mem_singleton.mpr phrase, .single rest, reads⟩

theorem ReadsBehind.of_trail (trimmed : Text.trimmed rest = rest)
    (reads : ∀ trail, IsTrail trail → Reads (front ++ trail) result) :
    ReadsBehind front rest result := by
  obtain ⟨trail, behind, spaced⟩ := exists_trail trimmed
  exact ⟨trail, behind.phrases, spaced, reads trail behind⟩

/-- One more word is split off the rest. -/
theorem ReadsBehind.of_splitWord (phrase : Text.IsPhrase rest)
    (reads : ∀ one behind, Text.splitWord rest = (one, behind) → Text.IsWord one →
      Text.trimmed behind = behind → ReadsBehind (front ++ [one]) behind result) :
    ReadsBehind front rest result := by
  obtain ⟨one, behind, split, isWord, trimmed, row⟩ := phrase.exists_splitWord
  obtain ⟨parts, phrases, spaced, meaning⟩ := reads one behind split isWord trimmed
  refine ⟨one :: parts, List.forall_mem_cons.mpr ⟨isWord.isPhrase, phrases⟩,
    row parts phrases spaced, ?_⟩
  rwa [List.append_assoc] at meaning

end Rests

theorem readsBehind_parseSort (spells : Spells word Verb.sort.keywords)
    (trimmed : Text.trimmed rest = rest) : ReadsBehind [word] rest (parseSort rest) := by
  by_cases filled : rest = []
  · rw [filled]
    exact .of_nil (.columnMissing spells)
  refine .of_splitWord ⟨filled, trimmed⟩ fun column direction split isWord closed => ?_
  rw [parseSort_eq_sortBy isWord.1 split, sortBy]
  cases found : descending? (String.ofList direction) with
  | none =>
    -- Nothing behind the column is a direction that is known.
    have given : direction ≠ [] := fun nothing => by
      rw [descending?_iff.mpr (Or.inl ⟨nothing, rfl⟩)] at found
      cases found
    have unknown descending (directs : Spells direction [directionKeyword descending]) : False := by
      rw [descending?_iff.mpr (Or.inr directs)] at found
      cases found
    exact .of_phrase ⟨given, closed⟩ (.directionUnknown spells isWord ⟨given, closed⟩ unknown)
  | some descending =>
    rcases descending?_iff.mp found with ⟨rfl, rfl⟩ | directs
    · exact .of_nil (.sort spells isWord)
    · exact .of_phrase (directs.isWord (areKeywords_direction _)).isPhrase
        (.sortDirected spells isWord directs)

theorem ListVerb.readsBehind {verb : ListVerb} (spells : Spells word Verb.list.keywords)
    (spellsToo : Spells second verb.keywords) (trimmed : Text.trimmed rest = rest) :
    ReadsBehind [word, second] rest (verb.read rest) := by
  have picked {name : String} {command : String → Command}
      (picks : verb.picker? = some (name, command)) :
      ReadsBehind [word, second] rest (verb.read rest) := by
    rw [ListVerb.read_picks picks, parseSelection]
    by_cases filled : rest = []
    · rw [filled]
      exact .of_nil (.selectionMissing spells spellsToo picks)
    · rw [List.isEmpty_eq_false_iff.mpr filled]
      exact .of_phrase ⟨filled, trimmed⟩ (.listPick spells spellsToo picks ⟨filled, trimmed⟩)
  have alone {command : Command} (alone : verb.command? = some command) :
      ReadsBehind [word, second] rest (verb.read rest) := by
    rw [ListVerb.read_alone alone]
    exact .of_trail trimmed fun trail behind => .listAlone spells spellsToo alone behind
  cases verb with
  | add | remove => exact picked rfl
  | view | count | clear => exact alone rfl
  | save =>
    by_cases filled : rest = []
    · rw [filled]
      exact .of_nil (.listSave spells spellsToo)
    · rw [ListVerb.read, List.isEmpty_eq_false_iff.mpr filled]
      exact .of_phrase ⟨filled, trimmed⟩ (.listSaveTo spells spellsToo ⟨filled, trimmed⟩)

theorem readsBehind_parseList (spells : Spells word Verb.list.keywords)
    (trimmed : Text.trimmed rest = rest) : ReadsBehind [word] rest (parseList rest) := by
  by_cases filled : rest = []
  · rw [filled, parseList_nil]
    exact .of_nil (.list spells)
  refine .of_splitWord ⟨filled, trimmed⟩ fun second argument split isWord closed => ?_
  by_cases known : ∃ verb : ListVerb, Spells second verb.keywords
  · obtain ⟨verb, spellsToo⟩ := known
    rw [parseList_of_spells isWord.1 split spellsToo]
    exact verb.readsBehind spells spellsToo closed
  · rw [not_exists] at known
    rw [parseList_of_unknown isWord.1 split known]
    exact .of_trail closed fun trail behind => .listUnknown spells isWord known behind

theorem Verb.readsBehind {verb : Verb} (spells : Spells word verb.keywords)
    (trimmed : Text.trimmed rest = rest) : ReadsBehind [word] rest (verb.read rest) := by
  have alone {command : Command} (alone : verb.command? = some command) :
      ReadsBehind [word] rest (verb.read rest) := by
    rw [Verb.read_alone alone]
    exact .of_trail trimmed fun trail behind => .alone spells alone behind
  cases verb with
  | view | filters | reset | columns | help | exit => exact alone rfl
  | sort => exact readsBehind_parseSort spells trimmed
  | list => exact readsBehind_parseList spells trimmed
  | filter =>
    by_cases filled : rest = []
    · rw [filled]
      exact .of_nil (.filterNothing spells)
    · exact .of_phrase ⟨filled, trimmed⟩ (.filter spells ⟨filled, trimmed⟩)

/-- Every line is a row of parts, and is read as this row. -/
theorem exists_reads (line : String) :
    ∃ parts, Text.Laid parts line.toList ∧ Reads parts (parse line) := by
  suffices behind : ReadsBehind [] (Text.trimmed line.toList) (parse line) by
    obtain ⟨parts, -, spaced, reads⟩ := behind
    exact ⟨parts, Text.laid_of_spaced_trimmed spaced, reads⟩
  by_cases filled : Text.trimmed line.toList = []
  · rw [parse_of_trimmed_nil filled, filled]
    exact .of_nil .nothing
  refine .of_splitWord ⟨filled, Text.trimmed_trimmed _⟩ fun word rest split isWord trimmed => ?_
  by_cases known : ∃ verb : Verb, Spells word verb.keywords
  · obtain ⟨verb, spells⟩ := known
    rw [parse_of_spells filled split spells]
    exact verb.readsBehind spells trimmed
  · rw [not_exists] at known
    rw [parse_of_unknown filled split known]
    exact .of_trail trimmed fun trail behind => .unknown isWord known behind

end Lines

section Proper

variable {command : Command} {parts : List (List Char)}

theorem Reads.isProper (reads : Reads parts (.ok command)) : command.IsProper := by
  have text {cs : List Char} (phrase : Text.IsPhrase cs) :
      Text.IsPhrase (String.ofList cs).toList := by
    rwa [String.toList_ofList]
  cases reads with
  | nothing | filterNothing | list | listSave => trivial
  | @alone _ _ verb _ _ alone => cases verb <;> cases alone <;> trivial
  | @listAlone _ _ _ verb _ _ _ alone => cases verb <;> cases alone <;> trivial
  | filter _ phrase =>
    rw [IsProper, Text.trim, (text phrase).2, String.ofList_toList]
  | sort _ isWord | sortDirected _ isWord _ =>
    rwa [IsProper, String.toList_ofList]
  | @listPick _ _ _ verb _ _ _ _ picks phrase =>
    cases verb <;> cases picks <;> exact text phrase
  | listSaveTo _ _ phrase => exact text phrase

theorem Verb.exists_reads_alone (verb : Verb) (alone : verb.command? = some command) :
    ∃ parts, Reads parts (.ok command) := by
  obtain ⟨word, spells⟩ := verb.exists_spells
  exact ⟨[word], .alone spells alone (Or.inl rfl)⟩

theorem ListVerb.exists_reads_alone (verb : ListVerb) (alone : verb.command? = some command) :
    ∃ parts, Reads parts (.ok command) := by
  obtain ⟨word, spells⟩ := Verb.list.exists_spells
  obtain ⟨second, spellsToo⟩ := verb.exists_spells
  exact ⟨[word, second], .listAlone spells spellsToo alone (Or.inl rfl)⟩

theorem ListVerb.exists_reads_picks (verb : ListVerb) {name selection : String}
    {command : String → Command} (picks : verb.picker? = some (name, command))
    (phrase : Text.IsPhrase selection.toList) :
    ∃ parts, Reads parts (.ok (command selection)) := by
  obtain ⟨word, spells⟩ := Verb.list.exists_spells
  obtain ⟨second, spellsToo⟩ := verb.exists_spells
  have reads := Reads.listPick spells spellsToo picks phrase
  rw [String.ofList_toList] at reads
  exact ⟨_, reads⟩

/-- Every proper command has a wording. -/
theorem exists_reads_of_isProper (proper : command.IsProper) :
    ∃ parts, Reads parts (.ok command) := by
  cases command with
  | empty => exact ⟨[], .nothing⟩
  | view => exact Verb.view.exists_reads_alone rfl
  | filters => exact Verb.filters.exists_reads_alone rfl
  | reset => exact Verb.reset.exists_reads_alone rfl
  | columns => exact Verb.columns.exists_reads_alone rfl
  | help => exact Verb.help.exists_reads_alone rfl
  | exit => exact Verb.exit.exists_reads_alone rfl
  | listShow => exact ListVerb.view.exists_reads_alone rfl
  | listCount => exact ListVerb.count.exists_reads_alone rfl
  | listClear => exact ListVerb.clear.exists_reads_alone rfl
  | listAdd selection => exact ListVerb.add.exists_reads_picks rfl proper
  | listRemove selection => exact ListVerb.remove.exists_reads_picks rfl proper
  | filter expression =>
    obtain ⟨word, spells⟩ := Verb.filter.exists_spells
    by_cases nothing : expression = ""
    · exact ⟨[word], nothing ▸ .filterNothing spells⟩
    · have trimmed : Text.trimmed expression.toList = expression.toList := by
        rw [← String.toList_ofList (l := Text.trimmed _)]
        exact congrArg String.toList proper
      have reads := Reads.filter spells ⟨mt String.toList_eq_nil_iff.mp nothing, trimmed⟩
      rw [String.ofList_toList] at reads
      exact ⟨_, reads⟩
  | sort column descending =>
    obtain ⟨word, spells⟩ := Verb.sort.exists_spells
    obtain ⟨direction, directs⟩ := exists_spells_direction descending
    have reads := Reads.sortDirected spells proper directs
    rw [String.ofList_toList] at reads
    exact ⟨_, reads⟩
  | listSave path =>
    obtain ⟨word, spells⟩ := Verb.list.exists_spells
    obtain ⟨second, spellsToo⟩ := ListVerb.save.exists_spells
    cases path with
    | none => exact ⟨_, .listSave spells spellsToo⟩
    | some path =>
      have reads := Reads.listSaveTo spells spellsToo proper
      rw [String.ofList_toList] at reads
      exact ⟨_, reads⟩

end Proper

/-- A line is read as a command, or as an error, exactly if it is a row of parts with this meaning.
The commands with a wording are those whose texts are proper. -/
theorem parse_inverts_wording :
    (∀ (line : String) (result : Except CommandError Command),
      parse line = result ↔ ∃ parts, Text.Laid parts line.toList ∧ Reads parts result) ∧
    ∀ command : Command, (∃ parts, Reads parts (.ok command)) ↔ command.IsProper := by
  refine ⟨fun line result => ⟨?_, ?_⟩, fun command => ⟨?_, exists_reads_of_isProper⟩⟩
  · rintro rfl
    exact exists_reads line
  · rintro ⟨parts, laid, reads⟩
    exact parse_of_reads reads laid
  · rintro ⟨parts, reads⟩
    exact reads.isProper

example : parse "\tLIST  Add 1 - 3,  Catan " = .ok (.listAdd "1 - 3,  Catan") := by
  decide

end GameShelf.Command
