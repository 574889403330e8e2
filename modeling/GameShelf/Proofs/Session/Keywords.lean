import GameShelf.Proofs.Lookup
import GameShelf.Proofs.Text.Caseless
import GameShelf.Proofs.Text.Words
import GameShelf.Session.Command

namespace GameShelf.Command

/-- The words that ask for the same. -/
def Verb.keywords : Verb → List String
  | filter => ["filter", "f"]
  | sort => ["sort"]
  | view => ["show", "ls"]
  | filters => ["filters"]
  | reset => ["reset"]
  | columns => ["fields"]
  | list => ["list"]
  | help => ["help", "?"]
  | exit => ["exit", "quit", "q"]

def ListVerb.keywords : ListVerb → List String
  | add => ["add"]
  | remove => ["remove", "rm"]
  | view => ["show"]
  | count => ["count"]
  | clear => ["clear"]
  | save => ["save"]

def directionKeyword (descending : Bool) : String :=
  if descending then "desc" else "asc"

/-- The word is one of the keywords, each of its letters in either case. -/
def Spells (word : List Char) (keywords : List String) : Prop :=
  ∃ keyword ∈ keywords, word.map Char.toLower = keyword.toList

/-- What is true of all keywords: they are filled with plain characters, none of them white. -/
def areKeywords (keywords : List String) : Bool :=
  keywords.all fun keyword =>
    keyword ≠ "" && keyword.toList.all fun c => Text.isPlain c && !Text.isBlank c

theorem Verb.areKeywords_keywords (verb : Verb) : areKeywords verb.keywords := by
  cases verb <;> decide

theorem ListVerb.areKeywords_keywords (verb : ListVerb) : areKeywords verb.keywords := by
  cases verb <;> decide

theorem areKeywords_direction (descending : Bool) :
    areKeywords [directionKeyword descending] := by
  cases descending <;> decide

variable {word : List Char} {keyword : String} {keywords : List String}

theorem keyword_of_mem (are : areKeywords keywords) (member : keyword ∈ keywords) :
    keyword ≠ "" ∧ ∀ c ∈ keyword.toList, Text.isPlain c ∧ Text.isBlank c = false := by
  simpa using List.all_eq_true.mp are keyword member

/-- Keywords are recognised by their lower-case form, and that is theirs in any case only. -/
theorem lower_mem_iff (are : areKeywords keywords) :
    Text.lower (String.ofList word) ∈ keywords ↔ Spells word keywords := by
  have form {keyword : String} (member : keyword ∈ keywords) :
      Text.lower (String.ofList word) = keyword ↔ word.map Char.toLower = keyword.toList := by
    rw [Text.lower_eq_iff_of_isPlain fun c inside => ((keyword_of_mem are member).2 c inside).1,
      String.toList_ofList]
  constructor
  · intro member
    exact ⟨_, member, (form member).mp rfl⟩
  · rintro ⟨keyword, member, same⟩
    exact (form member).mpr same ▸ member

theorem Spells.isWord (spells : Spells word keywords) (are : areKeywords keywords) :
    Text.IsWord word := by
  obtain ⟨keyword, member, same⟩ := spells
  obtain ⟨filled, letters⟩ := keyword_of_mem are member
  constructor
  · rintro rfl
    exact filled (String.toList_eq_nil_iff.mp same.symm)
  · intro c inside
    have lower : c.toLower ∈ keyword.toList := same ▸ List.mem_map_of_mem inside
    by_cases capital : 65 ≤ c.toNat ∧ c.toNat ≤ 90
    · simp only [Text.isBlank, Bool.or_eq_false_iff, Bool.and_eq_false_iff,
        decide_eq_false_iff_not]
      omega
    · rw [← Text.toLower_of_not_capital capital]
      exact (letters _ lower).2

theorem lookup_verbs_iff {verb : Verb} :
    verbs.lookup (Text.lower (String.ofList word)) = some verb ↔ Spells word verb.keywords := by
  rw [← lower_mem_iff verb.areKeywords_keywords, Lookup.lookup_eq_some_iff_mem (by decide)]
  cases verb <;> simp [verbs, Verb.keywords]

theorem lookup_listVerbs_iff {verb : ListVerb} (filled : word ≠ []) :
    listVerbs.lookup (Text.lower (String.ofList word)) = some verb ↔
      Spells word verb.keywords := by
  have lower : Text.lower (String.ofList word) ≠ "" := by
    rw [Ne, Text.lower_eq_iff_of_isPlain (by simp)]
    simpa using filled
  rw [← lower_mem_iff verb.areKeywords_keywords, Lookup.lookup_eq_some_iff_mem (by decide)]
  cases verb <;> simp [listVerbs, ListVerb.keywords, lower]

theorem descending?_iff {direction : List Char} {descending : Bool} :
    descending? (String.ofList direction) = some descending ↔
      direction = [] ∧ descending = false ∨ Spells direction [directionKeyword descending] := by
  have nothing : Text.lower (String.ofList direction) = "" ↔ direction = [] := by
    rw [Text.lower_eq_iff_of_isPlain (by simp)]
    simp
  rw [← lower_mem_iff (areKeywords_direction descending), List.mem_singleton, ← nothing,
    descending?]
  generalize Text.lower (String.ofList direction) = key
  cases descending <;> simp [directionKeyword] <;> grind

theorem spells_of_mem (member : keyword ∈ keywords)
    (lower : keyword.toList.map Char.toLower = keyword.toList) : Spells keyword.toList keywords :=
  ⟨keyword, member, lower⟩

theorem Verb.exists_spells (verb : Verb) : ∃ word, Spells word verb.keywords := by
  cases verb <;> exact ⟨_, spells_of_mem List.mem_cons_self (by decide)⟩

theorem ListVerb.exists_spells (verb : ListVerb) : ∃ word, Spells word verb.keywords := by
  cases verb <;> exact ⟨_, spells_of_mem List.mem_cons_self (by decide)⟩

theorem exists_spells_direction (descending : Bool) :
    ∃ word, Spells word [directionKeyword descending] := by
  cases descending <;> exact ⟨_, spells_of_mem List.mem_cons_self (by decide)⟩

end GameShelf.Command
