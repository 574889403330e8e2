import GameShelf.Json.Basic
import GameShelf.Proofs.Toml.QuotedForm
import GameShelf.Toml.Reader

namespace GameShelf.Toml

theorem Quoted.isSpace_eq_false {p : Char → Bool} {c : Char} (holds : p c = true)
    (space : p ' ' = false) (tab : p '\t' = false) : isSpace c = false := by
  have noSpace : c ≠ ' ' := by
    rintro rfl
    exact Bool.false_ne_true (space.symm.trans holds)
  have noTab : c ≠ '\t' := by
    rintro rfl
    exact Bool.false_ne_true (tab.symm.trans holds)
  simp [isSpace, noSpace, noTab]

theorem QuotedForm.exists_cons_encode (text : List Char) :
    ∃ quote tail, encode text = quote :: tail ∧ (quote = '"' ∨ quote = '\'') := by
  rw [encode]
  cases choose text with
  | basic => exact ⟨'"', _, rfl, Or.inl rfl⟩
  | literal => exact ⟨'\'', _, rfl, Or.inr rfl⟩
  | basicLines => exact ⟨'"', _, rfl, Or.inl rfl⟩
  | literalLines => exact ⟨'\'', _, rfl, Or.inr rfl⟩

namespace Reader

/-- The document can be read on from a line on, up to its end. -/
inductive Reads : Draft → List Char → Draft → Prop
  | done (draft : Draft) : Reads draft [] draft
  | blank {draft last : Draft} {rest : List Char} (later : Reads draft rest last) :
      Reads draft ('\n' :: rest) last
  | line {draft next last : Draft} {c : Char} {text rest : List Char}
      (solid : Quoted.isSpace c = false) (filled : c ≠ '\n')
      (read : line? draft (c :: text) = some (next, rest)) (shorter : rest.length ≤ text.length)
      (later : Reads next rest last) : Reads draft (c :: text) last

theorem skipSpace_of_solid {c : Char} (solid : Quoted.isSpace c = false) (text : List Char) :
    skipSpace (c :: text) = c :: text := by
  simp [skipSpace, solid]

/-- Every line takes a character at least, so the length of the text bounds the lines. -/
theorem Reads.lines? {draft last : Draft} {text : List Char} (reads : Reads draft text last)
    {fuel : Nat} (enough : text.length < fuel) : lines? fuel draft text = some last := by
  induction reads generalizing fuel with
  | done draft =>
    obtain ⟨fuel, rfl⟩ := Nat.exists_eq_add_one.mpr enough
    rfl
  | @blank draft last rest later ih =>
    obtain ⟨fuel, rfl⟩ := Nat.exists_eq_add_one.mpr (Nat.zero_lt_of_lt enough)
    rw [List.length_cons] at enough
    rw [Reader.lines?, skipSpace_of_solid (by decide)]
    exact ih (by omega)
  | @line draft next last c text rest solid filled read shorter later ih =>
    obtain ⟨fuel, rfl⟩ := Nat.exists_eq_add_one.mpr (Nat.zero_lt_of_lt enough)
    rw [List.length_cons] at enough
    rw [Reader.lines?, skipSpace_of_solid solid]
    split
    case h_1 none => cases none
    case h_2 line => exact absurd (List.cons.inj line).1 filled
    case h_3 =>
      rw [read]
      exact ih (by omega)

theorem joinLineEnds_of_not_mem {text : List Char} (absent : '\r' ∉ text) :
    joinLineEnds text = text := by
  induction text with
  | nil => rfl
  | cons c text ih =>
    simp only [List.mem_cons, not_or] at absent
    rw [joinLineEnds, ih absent.2]
    rintro rest rfl
    exact absurd rfl absent.1

theorem Reads.read? {text : List Char} {last : Draft} (reads : Reads .start text last)
    (absent : '\r' ∉ text) (noMark : text.head? ≠ some '\ufeff') :
    Toml.read? (String.ofList text) = some last.entries := by
  have kept : dropMark text = text := by
    rw [dropMark]
    rintro rest rfl
    exact noMark rfl
  simp only [Toml.read?, String.toList_ofList, kept, joinLineEnds_of_not_mem absent,
    reads.lines? (Nat.lt_succ_self _), Option.map_some]

/-- A name that can be a key without quotes. -/
def IsBare (name : List Char) : Prop :=
  name ≠ [] ∧ ∀ c ∈ name, isBareChar c = true

instance (name : List Char) : Decidable (IsBare name) :=
  decidable_of_iff (name ≠ [] ∧ name.all isBareChar = true)
    (and_congr_right' List.all_eq_true)

theorem IsBare.key? {name : List Char} (bare : IsBare name) {c : Char} (stop : isBareChar c = false)
    {d : Char} {rest after : List Char} (next : skipSpace (c :: rest) = d :: after)
    (noDot : d ≠ '.') :
    key? (name ++ c :: rest) = some (([], String.ofList name), d :: after) := by
  obtain ⟨nonempty, bareChars⟩ := bare
  obtain ⟨first, tail, rfl⟩ := List.exists_cons_of_ne_nil nonempty
  have firstBare : isBareChar first = true := bareChars first List.mem_cons_self
  have solid : Quoted.isSpace first = false :=
    Quoted.isSpace_eq_false firstBare (by decide) (by decide)
  have part : keyPart? (first :: tail ++ c :: rest) =
      some (String.ofList (first :: tail), c :: rest) := by
    have taken : (first :: tail ++ c :: rest).takeWhile isBareChar = first :: tail := by
      rw [List.takeWhile_append_of_pos bareChars]
      simp [stop]
    have left : (first :: tail ++ c :: rest).dropWhile isBareChar = c :: rest := by
      rw [List.dropWhile_append_of_pos bareChars]
      simp [stop]
    rw [keyPart?]
    · simp only [taken, left]
      rfl
    · rintro _ ⟨⟩
      cases firstBare
    · rintro _ ⟨⟩
      cases firstBare
  have parts : keyParts? limit (first :: tail ++ c :: rest) =
      some ([String.ofList (first :: tail)], d :: after) := by
    rw [limit, keyParts?, List.cons_append, skipSpace_of_solid solid, ← List.cons_append]
    simp only [part, next]
    split
    case h_1 same => exact absurd (List.cons.inj same).1 noDot
    case h_2 => rfl
  rw [Reader.key?, parts]
  rfl

theorem trailing?_lineFeed (rest : List Char) : trailing? ('\n' :: rest) = some rest := by
  simp [trailing?, skipSpace, Quoted.isSpace, skipComment, lineEnd?]

/-- A header in single brackets on a line of its own. -/
theorem Reads.header {draft next last : Draft} {name rest : List Char} (bare : IsBare name)
    (entered : draft.enter? false [] (String.ofList name) = some next)
    (later : Reads next rest last) :
    Reads draft ('[' :: (name ++ ']' :: '\n' :: rest)) last := by
  have key : key? (name ++ ']' :: '\n' :: rest) =
      some (([], String.ofList name), ']' :: '\n' :: rest) :=
    bare.key? (by decide) (skipSpace_of_solid (by decide) _) (by decide)
  have read : line? draft ('[' :: (name ++ ']' :: '\n' :: rest)) = some (next, rest) := by
    obtain ⟨nonempty, bareChars⟩ := bare
    rw [line?]
    · simp only [header?, key, Option.bind_some, trailing?_lineFeed, entered]
    · intro after same
      obtain ⟨first, tail, rfl⟩ := List.exists_cons_of_ne_nil nonempty
      have bracket : first = '[' := by
        rw [List.cons_append] at same
        exact (List.cons.inj same).1
      have allowed := bareChars first List.mem_cons_self
      rw [bracket] at allowed
      cases allowed
  refine .line (by decide) (by decide) read ?_ later
  simp only [List.length_append, List.length_cons]
  omega

/-- What is written for a value is read as that value, up to the end of its line. -/
structure Spells (written : List Char) (value : Toml) : Prop where
  start : ∃ c tail, written = c :: tail ∧ Quoted.isSpace c = false
  read (rest : List Char) :
    value? (limit - 1) (written ++ '\n' :: rest) = some (value, '\n' :: rest)

/-- A key and its value on a line of their own. -/
theorem Reads.entry {draft next last : Draft} {name written rest : List Char} {value : Toml}
    (bare : IsBare name) (spells : Spells written value)
    (assigned : draft.assign? [] (String.ofList name) value = some next)
    (later : Reads next rest last) :
    Reads draft (name ++ ' ' :: '=' :: ' ' :: (written ++ '\n' :: rest)) last := by
  obtain ⟨first, tail, rfl, solid⟩ := spells.start
  have key : key? (name ++ ' ' :: '=' :: ' ' :: (first :: tail ++ '\n' :: rest)) =
      some (([], String.ofList name), '=' :: ' ' :: (first :: tail ++ '\n' :: rest)) :=
    bare.key? (by decide) (by simp [skipSpace, Quoted.isSpace]) (by decide)
  have behind : skipSpace (' ' :: (first :: tail ++ '\n' :: rest)) =
      first :: tail ++ '\n' :: rest :=
    skipSpace_of_solid solid _
  have read : assignment? draft (name ++ ' ' :: '=' :: ' ' :: (first :: tail ++ '\n' :: rest)) =
      some (next, rest) := by
    simp only [assignment?, pair?, key, behind, spells.read rest, Option.map_some,
      trailing?_lineFeed, assigned]
  obtain ⟨start, more, rfl⟩ := List.exists_cons_of_ne_nil bare.1
  have startBare : isBareChar start = true := bare.2 start List.mem_cons_self
  have line : line? draft (start :: (more ++ ' ' :: '=' :: ' ' ::
      (first :: tail ++ '\n' :: rest))) = some (next, rest) := by
    rw [line?]
    · exact read
    all_goals
      intro _ same
      rw [(List.cons.inj same).1] at startBare
      cases startBare
  rw [List.cons_append]
  refine .line (Quoted.isSpace_eq_false startBare (by decide) (by decide)) ?_ line ?_ later
  · rintro rfl
    cases startBare
  · simp only [List.length_append, List.length_cons]
    omega

theorem value?_of_first {c : Char} (noBracket : c ≠ '[') (noBrace : c ≠ '\x7b') (double : c ≠ '"')
    (single : c ≠ '\'') (depth : Nat) (text : List Char) :
    value? depth (c :: text) = Word.read? (c :: text) := by
  rw [value?]
  all_goals simp_all

/-- A word that stands for a value by itself. -/
theorem spells_word {word : List Char} {value : Toml} (nonempty : word ≠ [])
    (all : word.all Word.isWordChar = true) (stands : Word.value? word = some value) :
    Spells word value := by
  have chars : ∀ c ∈ word, Word.isWordChar c = true := List.all_eq_true.mp all
  have taken (rest : List Char) : (word ++ '\n' :: rest).takeWhile Word.isWordChar = word := by
    rw [List.takeWhile_append_of_pos chars, List.takeWhile_cons_of_neg (by decide),
      List.append_nil]
  have left (rest : List Char) :
      (word ++ '\n' :: rest).dropWhile Word.isWordChar = '\n' :: rest := by
    rw [List.dropWhile_append_of_pos chars, List.dropWhile_cons_of_neg (by decide)]
  have read (rest : List Char) :
      Word.read? (word ++ '\n' :: rest) = some (value, '\n' :: rest) := by
    simp only [Word.read?, taken, left, stands, Option.map_some]
    rfl
  obtain ⟨c, tail, rfl⟩ := List.exists_cons_of_ne_nil nonempty
  have first : Word.isWordChar c = true := chars c List.mem_cons_self
  constructor
  · exact ⟨c, tail, rfl, Quoted.isSpace_eq_false first (by decide) (by decide)⟩
  · intro rest
    rw [List.cons_append, value?_of_first, ← List.cons_append, read]
    all_goals
      rintro rfl
      cases first

theorem spells_truth (value : Bool) : Spells (Json.boolText value) (.boolean value) := by
  cases value
  · exact spells_word (by decide) (by decide) rfl
  · exact spells_word (by decide) (by decide) rfl

theorem spells_one : Spells ['1'] (.integer 1) :=
  spells_word (by decide) (by decide) rfl

theorem spells_encode (text : List Char) :
    Spells (QuotedForm.encode text) (.string (String.ofList text)) := by
  have read (rest : List Char) :
      Quoted.read? (QuotedForm.encode text ++ '\n' :: rest) = some (text, '\n' :: rest) :=
    QuotedForm.read?_encode text (by simp) (by simp)
  obtain ⟨quote, tail, shape, kind⟩ := QuotedForm.exists_cons_encode text
  rw [shape] at read ⊢
  rcases kind with rfl | rfl
  all_goals
    constructor
    · exact ⟨_, tail, rfl, by decide⟩
    · intro rest
      have whole := read rest
      rw [List.cons_append] at whole ⊢
      rw [value?, whole, Option.map_some]

end Reader

end GameShelf.Toml
