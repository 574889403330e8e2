import GameShelf.Proofs.Shortlist.Resolution

namespace GameShelf

/-- One more, unless that is too much for a machine word. -/
def increment? (n : Nat) : Option Nat :=
  if n + 1 < UInt64.size then some (n + 1) else none

/-- One less, unless there is nothing less. -/
def decrement? : Nat → Option Nat
  | 0 => none
  | n + 1 => some n

theorem decrement?_of_ne_zero {n : Nat} (positive : n ≠ 0) : decrement? n = some (n - 1) := by
  obtain ⟨m, rfl⟩ := Nat.exists_eq_succ_of_ne_zero positive
  rfl

namespace Block

/-- The members of a row at these positions, unless the bounds are out of order or beyond the
end. -/
def slice? {α : Type} (block : Block) (row : List α) : Option (List α) :=
  if block.start ≤ block.stop ∧ block.stop ≤ row.length then some (block.of row) else none

theorem Inside.slice?_eq {α : Type} {block : Block} {row : List α}
    (inside : block.Inside row.length) : block.slice? row = some (block.of row) :=
  if_pos ⟨inside.1.le, inside.2⟩

theorem slice?_whole {α : Type} (row : List α) :
    (⟨0, row.length⟩ : Block).slice? row = some row := by
  rw [slice?, if_pos ⟨Nat.zero_le _, le_rfl⟩, of_whole]

end Block

namespace Selection

/-- `resolveNumber` with each bound computed in a machine word. -/
def resolveNumberInWords? (word : String) (len : Nat) : Option (Except ShortlistError Block) :=
  match readRange? word.toList with
  | some (first, last) =>
    if first = 0 || last < first then some (.error (.invalidRange first last))
    else if len < first then some (.error (.rangeStartOutOfBounds first len))
    else (decrement? first).map fun start => .ok ⟨start, min last len⟩
  | none =>
    match readWord? word.toList with
    | some index =>
      if index = 0 || len < index then some (.error (.indexOutOfRange index len))
      else (decrement? index).map fun start => .ok ⟨start, index⟩
    | none => some (.error (.invalidFormat word))

/-- `resolve` with each bound computed in a machine word. -/
def resolveInWords? (word : String) (names : List String) :
    Option (Except ShortlistError Block) :=
  match findName? word names with
  | some i => (increment? i).map fun stop => .ok ⟨i, stop⟩
  | none => resolveNumberInWords? word names.length

theorem resolveNumberInWords?_eq (word : String) (len : Nat) :
    resolveNumberInWords? word len = some (resolveNumber word len) := by
  rw [resolveNumberInWords?, resolveNumber]
  cases readRange? word.toList with
  | some bounds =>
    obtain ⟨first, last⟩ := bounds
    dsimp only
    split
    · rfl
    split
    · rfl
    · rename_i valid _
      simp only [Bool.or_eq_true, decide_eq_true_eq, not_or] at valid
      rw [decrement?_of_ne_zero valid.1, Option.map_some]
  | none =>
    cases readWord? word.toList with
    | none => rfl
    | some index =>
      dsimp only
      split
      · rfl
      · rename_i within
        simp only [Bool.or_eq_true, decide_eq_true_eq, not_or] at within
        rw [decrement?_of_ne_zero within.1, Option.map_some]

/-- A position in the row is less than its length, which is itself a machine word. -/
theorem resolveInWords?_eq {names : List String} (fits : names.length < UInt64.size)
    (word : String) : resolveInWords? word names = some (resolve word names) := by
  rw [resolveInWords?, resolve]
  cases found : findName? word names with
  | none => exact resolveNumberInWords?_eq word names.length
  | some i =>
    obtain ⟨name, atName, -⟩ := findName?_eq_some_iff.mp found
    obtain ⟨bound, -⟩ := List.getElem?_eq_some_iff.mp atName
    simp only [increment?, if_pos (show i + 1 < UInt64.size by omega), Option.map_some]

end Selection

namespace Shortlist

/-- `addFrom` in machine words, with the candidates cut out at the positions of the block. -/
def addInWords? (list : Shortlist) (selection : String) (candidates : List Game) :
    Option Change :=
  let word := Text.trim selection
  let names := candidates.map Game.name
  let enlistBlock (block : Block) : Option Change :=
    (block.slice? candidates).map fun games => list.enlist (games.map Game.name)
  if word.isEmpty then some (list, .error .emptyInput)
  else if candidates.isEmpty then some (list, .error .noCandidates)
  else if Selection.isAll word then enlistBlock ⟨0, candidates.length⟩
  else match Selection.resolveInWords? word names with
    | none => none
    | some (.error error) => some (list, .error error)
    | some (.ok block) => enlistBlock block

/-- `strike` in machine words, with the names cut out at the positions of the block. -/
def strikeInWords? (list : Shortlist) (selection : String) : Option Change :=
  let word := Text.trim selection
  if word.isEmpty then some (list, .error .emptyInput)
  else if Selection.isAll word then some (empty, .ok list.count)
  else if list.isEmpty then some (list, .error .emptyList)
  else match Selection.resolveInWords? word list.names with
    | none => none
    | some (.error error) => some (list, .error error)
    | some (.ok block) =>
      (block.slice? list.names).map fun names => (names.foldl erase list, .ok block.size)

theorem addInWords?_eq {candidates : List Game} (fits : candidates.length < UInt64.size)
    (list : Shortlist) (selection : String) :
    list.addInWords? selection candidates = some (list.addFrom selection candidates) := by
  have nameFits : (candidates.map Game.name).length < UInt64.size := by rwa [List.length_map]
  simp only [addInWords?, addFrom, Selection.resolveInWords?_eq nameFits, Block.slice?_whole,
    Option.map_some]
  split
  · rfl
  split
  · rfl
  split
  · rfl
  cases outcome : Selection.resolve (Text.trim selection) (candidates.map Game.name) with
  | error error => rfl
  | ok block =>
    have inside := (Selection.resolve_eq_iff.mp outcome).inside
    rw [List.length_map] at inside
    simp only [inside.slice?_eq, Option.map_some, Block.of_map]

theorem strikeInWords?_eq {list : Shortlist} (fits : list.names.length < UInt64.size)
    (selection : String) : list.strikeInWords? selection = some (list.strike selection) := by
  simp only [strikeInWords?, strike, Selection.resolveInWords?_eq fits]
  split
  · rfl
  split
  · rfl
  split
  · rfl
  cases outcome : Selection.resolve (Text.trim selection) list.names with
  | error error => rfl
  | ok block =>
    have inside := (Selection.resolve_eq_iff.mp outcome).inside
    simp only [inside.slice?_eq, Option.map_some]

end Shortlist

namespace Selection

/-- A word picks what the rules say, and a block that it picks lies inside the row. So resolving it
stays in the range of machine words, in which lengths are counted, and neither adding nor removing
cuts where nothing is. -/
theorem resolution_stays_inside (word : String) (names : List String) :
    (∀ outcome, resolve word names = outcome ↔ Resolves word names outcome) ∧
      (∀ block, resolve word names = .ok block →
        block.start < block.stop ∧ block.stop ≤ names.length) ∧
      (names.length < UInt64.size →
        resolveInWords? word names = some (resolve word names) ∧
          (∀ (list : Shortlist) (candidates : List Game), candidates.map Game.name = names →
            list.addInWords? word candidates = some (list.addFrom word candidates)) ∧
          ∀ list : Shortlist, list.names = names →
            list.strikeInWords? word = some (list.strike word)) := by
  refine ⟨fun outcome => resolve_eq_iff, ?_, ?_⟩
  · intro block outcome
    exact (resolve_eq_iff.mp outcome).inside
  · intro fits
    refine ⟨resolveInWords?_eq fits word, ?_, ?_⟩
    · rintro list candidates rfl
      rw [List.length_map] at fits
      exact Shortlist.addInWords?_eq fits list word
    · rintro list rfl
      exact Shortlist.strikeInWords?_eq fits word

/-- A range may run past the end of the row. -/
example : resolve "02-99" ["Azul", "Catan", "Go"] = .ok ⟨1, 3⟩ := by
  decide +kernel

/-- A game that is named like a range of the row is picked by its name. -/
theorem resolution_stays_inside_of_range_name :
    let names := ["Go", "2-3", "Azul"]
    names.length < UInt64.size ∧ Resolves "2-3" names (.ok ⟨1, 2⟩) ∧
      resolveInWords? "2-3" names = some (.ok ⟨1, 2⟩) := by
  intro names
  have fits : names.length < UInt64.size := by decide
  obtain ⟨rules, _, inWords⟩ := resolution_stays_inside "2-3" names
  obtain ⟨exact, _⟩ := inWords fits
  have outcome : resolve "2-3" names = .ok ⟨1, 2⟩ := by decide +kernel
  rw [outcome] at exact
  exact ⟨fits, (rules _).mp outcome, exact⟩

end Selection

end GameShelf
