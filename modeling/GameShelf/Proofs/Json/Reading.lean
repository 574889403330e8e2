import GameShelf.Json.Reader
import GameShelf.Proofs.Json.Numeral
import GameShelf.Proofs.Json.Quoted

namespace GameShelf.Json

namespace Token

/-- A text and its tokens, with white space anywhere around them. -/
inductive Spells : List Char → List Token → Prop
  | nil : Spells [] []
  | space {c : Char} {text : List Char} {tokens : List Token} (blank : isSpace c = true)
      (rest : Spells text tokens) : Spells (c :: text) tokens
  | token {first : Char} {body text : List Char} {token : Token} {tokens : List Token}
      (solid : isSpace first = false) (reads : read? (first :: body) = some (token, text))
      (shorter : text.length ≤ body.length) (rest : Spells text tokens) :
      Spells (first :: body) (token :: tokens)

theorem Spells.scan? {text : List Char} {tokens : List Token} (spells : Spells text tokens)
    {fuel : Nat} (enough : text.length ≤ fuel) : scan? fuel text = some tokens := by
  induction spells generalizing fuel with
  | nil =>
    cases fuel with
    | zero => rfl
    | succ fuel => rfl
  | space blank _ ih =>
    rw [List.length_cons] at enough
    cases fuel with
    | zero => omega
    | succ fuel =>
      -- white space takes no step of its own
      have later := ih (show _ ≤ fuel + 1 by omega)
      rw [Token.scan?] at later ⊢
      rwa [List.dropWhile_cons_of_pos blank]
  | token solid reads shorter _ ih =>
    rw [List.length_cons] at enough
    cases fuel with
    | zero => omega
    | succ fuel =>
      have stays : ¬ isSpace _ = true := Bool.eq_false_iff.mp solid
      rw [Token.scan?, List.dropWhile_cons_of_neg stays]
      simp only [reads, ih (show _ ≤ fuel by omega), Option.map_some]

theorem Spells.spaces {gap text : List Char} {tokens : List Token}
    (blank : ∀ c ∈ gap, isSpace c = true) (rest : Spells text tokens) :
    Spells (gap ++ text) tokens := by
  induction gap with
  | nil => exact rest
  | cons c gap ih =>
    obtain ⟨first, later⟩ := List.forall_mem_cons.mp blank
    exact .space first (ih later)

theorem Spells.newline {text : List Char} {tokens : List Token} (depth : Nat)
    (rest : Spells text tokens) : Spells (newline depth ++ text) tokens := by
  refine rest.spaces fun c member => ?_
  rcases List.mem_cons.mp member with rfl | later
  · rfl
  · rw [List.eq_of_mem_replicate later]
    rfl

section Marks

variable {text : List Char} {tokens : List Token} (rest : Spells text tokens)

include rest

theorem Spells.beginArray : Spells ('[' :: text) (.beginArray :: tokens) :=
  .token rfl rfl (Nat.le_refl _) rest

theorem Spells.endArray : Spells (']' :: text) (.endArray :: tokens) :=
  .token rfl rfl (Nat.le_refl _) rest

theorem Spells.beginObject : Spells ('{' :: text) (.beginObject :: tokens) :=
  .token rfl rfl (Nat.le_refl _) rest

theorem Spells.endObject : Spells ('}' :: text) (.endObject :: tokens) :=
  .token rfl rfl (Nat.le_refl _) rest

theorem Spells.colon : Spells (':' :: text) (.colon :: tokens) :=
  .token rfl rfl (Nat.le_refl _) rest

theorem Spells.comma : Spells (',' :: text) (.comma :: tokens) :=
  .token rfl rfl (Nat.le_refl _) rest

theorem Spells.null : Spells ("null".toList ++ text) (.null :: tokens) :=
  .token rfl rfl (Nat.le_add_right _ 3) rest

theorem Spells.bool (value : Bool) : Spells (boolText value ++ text) (.bool value :: tokens) := by
  cases value with
  | true => exact .token rfl rfl (Nat.le_add_right _ 3) rest
  | false => exact .token rfl rfl (Nat.le_add_right _ 4) rest

theorem Spells.string (content : Content) :
    Spells (Quoted.encode content ++ text) (.string content :: tokens) := by
  obtain ⟨body, shape, reads⟩ := Quoted.read?_encode content
  rw [shape, List.cons_append]
  refine .token rfl ?_ (by simp) rest
  rw [read?, reads, Option.map_some]

end Marks

/-- What begins like a number is read as one. -/
theorem read?_numeral {first : Char} (begins : Numeral.Begins first) (body : List Char) :
    read? (first :: body) =
      (Numeral.read? (first :: body)).map fun (numeral, rest) => (number numeral, rest) := by
  rw [Numeral.Begins] at begins
  rw [read?]
  · nofun
  -- neither the marks nor the words begin so
  all_goals
    rintro _ ⟨⟩
    revert begins
    decide

theorem isSpace_of_begins {first : Char} (begins : Numeral.Begins first) :
    isSpace first = false := by
  rw [Numeral.Begins] at begins
  by_contra blank
  simp only [isSpace, Bool.not_eq_false, Bool.or_eq_true, decide_eq_true_eq] at blank
  obtain ((rfl | rfl) | rfl) | rfl := blank <;>
    exact absurd begins (by decide)

theorem Spells.number {numeral : Numeral} (proper : numeral.IsProper) {text : List Char}
    {tokens : List Token} (stops : Numeral.Stops text) (rest : Spells text tokens) :
    Spells (numeral.text ++ text) (.number numeral :: tokens) := by
  have reads := Numeral.read?_text proper stops
  obtain ⟨first, body, shape, begins⟩ := Numeral.exists_cons_text proper
  rw [shape, List.cons_append] at reads ⊢
  refine .token (isSpace_of_begins begins) ?_ (by simp) rest
  rw [read?_numeral begins, reads, Option.map_some]

end Token

mutual

/-- The numerals of a document are all written by the rules of the format. -/
def IsProper : Json → Prop
  | number numeral => numeral.IsProper
  | array items => ProperItems items
  | object members => ProperMembers members
  | _ => True

def ProperItems : List Json → Prop
  | [] => True
  | item :: items => item.IsProper ∧ ProperItems items

def ProperMembers : List (Content × Json) → Prop
  | [] => True
  | (_, value) :: members => value.IsProper ∧ ProperMembers members

end

theorem properItems_map {α : Type} {write : α → Json} (each : ∀ item, (write item).IsProper)
    (items : List α) : ProperItems (items.map write) := by
  induction items with
  | nil => trivial
  | cons item items ih => exact ⟨each item, ih⟩

mutual

/-- The tokens of a document. -/
def tokens : Json → List Token
  | null => [.null]
  | bool value => [.bool value]
  | number numeral => [.number numeral]
  | string content => [.string content]
  | array [] => [.beginArray, .endArray]
  | array (item :: items) => .beginArray :: (tokens item ++ itemTokens items)
  | object [] => [.beginObject, .endObject]
  | object ((key, value) :: members) =>
    .beginObject :: .string key :: .colon :: (tokens value ++ memberTokens members)

/-- The items after the first, and the closing bracket. -/
def itemTokens : List Json → List Token
  | [] => [.endArray]
  | item :: items => .comma :: (tokens item ++ itemTokens items)

/-- The members after the first, and the closing brace. -/
def memberTokens : List (Content × Json) → List Token
  | [] => [.endObject]
  | (key, value) :: members =>
    .comma :: .string key :: .colon :: (tokens value ++ memberTokens members)

end

open Token (Spells)

section Compact

theorem stops_compactItems (items : List Json) (text : List Char) :
    Numeral.Stops (compactItems items ++ text) := by
  cases items with
  | nil => exact .cons (by decide) _
  | cons item items => exact .cons (by decide) _

theorem stops_compactMembers (members : List (Content × Json)) (text : List Char) :
    Numeral.Stops (compactMembers members ++ text) := by
  cases members with
  | nil => exact .cons (by decide) _
  | cons member members => exact .cons (by decide) _

mutual

theorem spells_compact (json : Json) (proper : json.IsProper) {text : List Char}
    {tokens : List Token} (stops : Numeral.Stops text) (rest : Spells text tokens) :
    Spells (json.compact ++ text) (json.tokens ++ tokens) := by
  match json with
  | null => exact rest.null
  | bool value => exact rest.bool value
  | number numeral => exact rest.number proper stops
  | string content => exact rest.string content
  | array [] => exact rest.endArray.beginArray
  | array (item :: items) =>
    have later := spells_compactItems items proper.2 rest
    have first := spells_compact item proper.1 (stops_compactItems items text) later
    simpa only [compact, Json.tokens, List.cons_append, List.append_assoc] using first.beginArray
  | object [] => exact rest.endObject.beginObject
  | object ((key, value) :: members) =>
    have later := spells_compactMembers members proper.2 rest
    have first := spells_compact value proper.1 (stops_compactMembers members text) later
    have keyed := first.colon.string key
    simpa only [compact, Json.tokens, List.cons_append, List.append_assoc] using keyed.beginObject

theorem spells_compactItems (items : List Json) (proper : ProperItems items) {text : List Char}
    {tokens : List Token} (rest : Spells text tokens) :
    Spells (compactItems items ++ text) (itemTokens items ++ tokens) := by
  match items with
  | [] => exact rest.endArray
  | item :: items =>
    have later := spells_compactItems items proper.2 rest
    have first := spells_compact item proper.1 (stops_compactItems items text) later
    simpa only [compactItems, itemTokens, List.cons_append, List.append_assoc] using first.comma

theorem spells_compactMembers (members : List (Content × Json)) (proper : ProperMembers members)
    {text : List Char} {tokens : List Token} (rest : Spells text tokens) :
    Spells (compactMembers members ++ text) (memberTokens members ++ tokens) := by
  match members with
  | [] => exact rest.endObject
  | (key, value) :: members =>
    have later := spells_compactMembers members proper.2 rest
    have first := spells_compact value proper.1 (stops_compactMembers members text) later
    have keyed := first.colon.string key
    simpa only [compactMembers, memberTokens, List.cons_append, List.append_assoc] using
      keyed.comma

end

end Compact

section Indented

theorem stops_indentedItems (depth : Nat) (items : List Json) (text : List Char) :
    Numeral.Stops (indentedItems depth items ++ text) := by
  cases items with
  | nil => exact .cons (by decide) _
  | cons item items => exact .cons (by decide) _

theorem stops_indentedMembers (depth : Nat) (members : List (Content × Json))
    (text : List Char) : Numeral.Stops (indentedMembers depth members ++ text) := by
  cases members with
  | nil => exact .cons (by decide) _
  | cons member members => exact .cons (by decide) _

theorem Token.Spells.afterColon {text : List Char} {tokens : List Token}
    (rest : Spells text tokens) (key : Content) :
    Spells (Quoted.encode key ++ ':' :: ' ' :: text) (.string key :: .colon :: tokens) :=
  (Spells.space rfl rest).colon.string key

mutual

theorem spells_indented (depth : Nat) (json : Json) (proper : json.IsProper) {text : List Char}
    {tokens : List Token} (stops : Numeral.Stops text) (rest : Spells text tokens) :
    Spells (json.indented depth ++ text) (json.tokens ++ tokens) := by
  match json with
  | null => exact rest.null
  | bool value => exact rest.bool value
  | number numeral => exact rest.number proper stops
  | string content => exact rest.string content
  | array [] => exact rest.endArray.beginArray
  | array (item :: items) =>
    have later := spells_indentedItems depth items proper.2 rest
    have first := spells_indented (depth + 1) item proper.1
      (stops_indentedItems depth items text) later
    simpa only [indented, Json.tokens, List.cons_append, List.append_assoc] using
      (first.newline (depth + 1)).beginArray
  | object [] => exact rest.endObject.beginObject
  | object ((key, value) :: members) =>
    have later := spells_indentedMembers depth members proper.2 rest
    have first := spells_indented (depth + 1) value proper.1
      (stops_indentedMembers depth members text) later
    simpa only [indented, Json.tokens, List.cons_append, List.append_assoc] using
      ((first.afterColon key).newline (depth + 1)).beginObject

theorem spells_indentedItems (depth : Nat) (items : List Json) (proper : ProperItems items)
    {text : List Char} {tokens : List Token} (rest : Spells text tokens) :
    Spells (indentedItems depth items ++ text) (itemTokens items ++ tokens) := by
  match items with
  | [] =>
    simpa only [indentedItems, itemTokens, List.append_assoc, List.singleton_append] using
      rest.endArray.newline depth
  | item :: items =>
    have later := spells_indentedItems depth items proper.2 rest
    have first := spells_indented (depth + 1) item proper.1
      (stops_indentedItems depth items text) later
    simpa only [indentedItems, itemTokens, List.cons_append, List.append_assoc] using
      (first.newline (depth + 1)).comma

theorem spells_indentedMembers (depth : Nat) (members : List (Content × Json))
    (proper : ProperMembers members) {text : List Char} {tokens : List Token}
    (rest : Spells text tokens) :
    Spells (indentedMembers depth members ++ text) (memberTokens members ++ tokens) := by
  match members with
  | [] =>
    simpa only [indentedMembers, memberTokens, List.append_assoc, List.singleton_append] using
      rest.endObject.newline depth
  | (key, value) :: members =>
    have later := spells_indentedMembers depth members proper.2 rest
    have first := spells_indented (depth + 1) value proper.1
      (stops_indentedMembers depth members text) later
    simpa only [indentedMembers, memberTokens, List.cons_append, List.append_assoc] using
      ((first.afterColon key).newline (depth + 1)).comma

end

end Indented

namespace State

/-- At the start of an array, what is no closing bracket begins the first item. -/
theorem run?_itemOrEnd (stack : List Frame) (json : Json) (rest : List Token) :
    (itemOrEnd stack).run? (json.tokens ++ rest) =
      (value (.array [] :: stack)).run? (json.tokens ++ rest) := by
  match json with
  | null | bool _ | number _ | string _ | array [] | array (_ :: _) | object []
  | object ((_, _) :: _) => rfl

mutual

theorem run?_value (stack : List Frame) (json : Json) (rest : List Token) :
    (value stack).run? (json.tokens ++ rest) = (done json stack).run? rest := by
  match json with
  | null | bool _ | number _ | string _ | array [] | object [] => rfl
  | array (item :: items) =>
    calc (value stack).run? ((array (item :: items)).tokens ++ rest)
        = (itemOrEnd stack).run? (item.tokens ++ (itemTokens items ++ rest)) := by
          rw [tokens, List.cons_append, List.append_assoc]
          rfl
      _ = (done item (.array [] :: stack)).run? (itemTokens items ++ rest) := by
          rw [run?_itemOrEnd, run?_value]
      _ = (done (array (item :: items)) stack).run? rest :=
          run?_items stack [] item items rest
  | object ((name, first) :: members) =>
    calc (value stack).run? ((object ((name, first) :: members)).tokens ++ rest)
        = (value (.object [] name :: stack)).run?
            (first.tokens ++ (memberTokens members ++ rest)) := by
          rw [tokens, List.cons_append, List.cons_append, List.cons_append, List.append_assoc]
          rfl
      _ = (done first (.object [] name :: stack)).run? (memberTokens members ++ rest) := by
          rw [run?_value]
      _ = (done (object ((name, first) :: members)) stack).run? rest :=
          run?_members stack [] name first members rest

theorem run?_items (stack : List Frame) (before : List Json) (item : Json) (items : List Json)
    (rest : List Token) :
    (done item (.array before :: stack)).run? (itemTokens items ++ rest) =
      (done (.array (before.reverse ++ item :: items)) stack).run? rest := by
  match items with
  | [] =>
    rw [← List.reverse_cons]
    rfl
  | next :: items =>
    calc (done item (.array before :: stack)).run? (itemTokens (next :: items) ++ rest)
        = (value (.array (item :: before) :: stack)).run?
            (next.tokens ++ (itemTokens items ++ rest)) := by
          rw [itemTokens, List.cons_append, List.append_assoc]
          rfl
      _ = (done next (.array (item :: before) :: stack)).run? (itemTokens items ++ rest) := by
          rw [run?_value]
      _ = (done (.array ((item :: before).reverse ++ next :: items)) stack).run? rest :=
          run?_items stack (item :: before) next items rest
      _ = (done (.array (before.reverse ++ item :: next :: items)) stack).run? rest := by
          rw [List.reverse_cons, List.append_assoc, List.singleton_append]

theorem run?_members (stack : List Frame) (before : List (Content × Json)) (name : Content)
    (first : Json) (members : List (Content × Json)) (rest : List Token) :
    (done first (.object before name :: stack)).run? (memberTokens members ++ rest) =
      (done (.object (before.reverse ++ (name, first) :: members)) stack).run? rest := by
  match members with
  | [] =>
    rw [← List.reverse_cons]
    rfl
  | (later, next) :: members =>
    calc (done first (.object before name :: stack)).run?
          (memberTokens ((later, next) :: members) ++ rest)
        = (value (.object ((name, first) :: before) later :: stack)).run?
            (next.tokens ++ (memberTokens members ++ rest)) := by
          rw [memberTokens, List.cons_append, List.cons_append, List.cons_append,
            List.append_assoc]
          rfl
      _ = (done next (.object ((name, first) :: before) later :: stack)).run?
            (memberTokens members ++ rest) := by
          rw [run?_value]
      _ = (done (.object (((name, first) :: before).reverse ++ (later, next) :: members))
            stack).run? rest :=
          run?_members stack ((name, first) :: before) later next members rest
      _ = (done (.object (before.reverse ++ (name, first) :: (later, next) :: members))
            stack).run? rest := by
          rw [List.reverse_cons, List.append_assoc, List.singleton_append]

end

end State

/-- A text that spells the tokens of a document is read as that document. -/
theorem read?_of_spells {json : Json} {text : List Char} (spells : Spells text json.tokens) :
    read? (String.ofList text) = some json := by
  have scanned : tokens? text = some json.tokens := spells.scan? (Nat.le_refl _)
  have runs := State.run?_value [] json []
  rw [List.append_nil] at runs
  rw [read?, String.toList_ofList, scanned]
  simp only [runs, State.run?, State.result?]

/-- A document is read as it was written, compact or indented. -/
theorem read?_compactText {json : Json} (proper : json.IsProper) :
    read? json.compactText = some json := by
  have spells := spells_compact json proper Numeral.Stops.nil Spells.nil
  rw [List.append_nil, List.append_nil] at spells
  exact read?_of_spells spells

theorem read?_prettyText {json : Json} (proper : json.IsProper) :
    read? json.prettyText = some json := by
  have spells := spells_indented 0 json proper Numeral.Stops.nil Spells.nil
  rw [List.append_nil, List.append_nil] at spells
  exact read?_of_spells spells

end GameShelf.Json
