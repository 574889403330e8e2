import GameShelf.Settings.Basic

namespace GameShelf

namespace Settings

/-- `new` are the settings `old` with exactly one of them replaced by what the value stands for. -/
inductive Replaced (old : Settings) : Key → String → Settings → Prop
  | catalog {value : String} : Replaced old .catalog value { old with catalog := some value }
  | sortField {value : String} {column : Column} (names : Column.ofTitle? value = some column) :
      Replaced old .sortField value { old with sortField := some column.title }
  | sortAscending {value : String} {truth : Bool} (stands : truth? value = some truth) :
      Replaced old .sortAscending value { old with sortAscending := some truth }
  | outputColor {value : String} {truth : Bool} (stands : truth? value = some truth) :
      Replaced old .outputColor value { old with outputColor := some truth }
  | listPath {value : String} : Replaced old .listPath value { old with listPath := some value }

theorem Key.ofName?_eq_some {text : String} {key : Key} :
    Key.ofName? text = some key ↔ text = key.name := by
  constructor
  · intro found
    have same := List.find?_some found
    exact (beq_iff_eq.mp same).symm
  · rintro rfl
    cases key <;> decide

theorem readTruth_eq_ok {value : String} {truth : Bool} :
    readTruth value = .ok truth ↔ truth? value = some truth := by
  rw [readTruth]
  cases truth? value <;> simp

theorem readColumn_eq_ok {value : String} {column : Column} :
    readColumn value = .ok column ↔ Column.ofTitle? value = some column := by
  rw [readColumn]
  cases Column.ofTitle? value <;> simp

theorem Replaced.assign {old new : Settings} {key : Key} {value : String}
    (replaced : Replaced old key value new) : old.assign key value = .ok new := by
  cases replaced with
  | catalog => rfl
  | sortField names => rw [Settings.assign, readColumn_eq_ok.mpr names]; rfl
  | sortAscending stands => rw [Settings.assign, readTruth_eq_ok.mpr stands]; rfl
  | outputColor stands => rw [Settings.assign, readTruth_eq_ok.mpr stands]; rfl
  | listPath => rfl

theorem exists_of_map_eq_ok {ε α β : Type} {result : Except ε α} {f : α → β} {b : β}
    (mapped : result.map f = .ok b) : ∃ a, result = .ok a ∧ f a = b := by
  cases result with
  | error error => cases mapped
  | ok a => exact ⟨a, rfl, Except.ok.inj mapped⟩

theorem replaced_of_assign {old new : Settings} {key : Key} {value : String}
    (assigned : old.assign key value = .ok new) : Replaced old key value new := by
  cases key with
  | catalog =>
    cases assigned
    exact .catalog
  | sortField =>
    rw [assign] at assigned
    obtain ⟨column, read, rfl⟩ := exists_of_map_eq_ok assigned
    exact .sortField (readColumn_eq_ok.mp read)
  | sortAscending =>
    rw [assign] at assigned
    obtain ⟨truth, read, rfl⟩ := exists_of_map_eq_ok assigned
    exact .sortAscending (readTruth_eq_ok.mp read)
  | outputColor =>
    rw [assign] at assigned
    obtain ⟨truth, read, rfl⟩ := exists_of_map_eq_ok assigned
    exact .outputColor (readTruth_eq_ok.mp read)
  | listPath =>
    cases assigned
    exact .listPath

/-- A change succeeds exactly if there is a setting with this name for which the value stands for
something, and then it replaces that setting. -/
theorem set_eq_ok_iff {old new : Settings} {name value : String} :
    old.set name value = .ok new ↔ ∃ key : Key, name = key.name ∧ Replaced old key value new := by
  constructor
  · intro changed
    rw [set] at changed
    split at changed
    case h_1 key found =>
      exact ⟨key, Key.ofName?_eq_some.mp found, replaced_of_assign changed⟩
    case h_2 => cases changed
  · rintro ⟨key, named, replaced⟩
    rw [set, Key.ofName?_eq_some.mpr named]
    exact replaced.assign

namespace Replaced

variable {old new : Settings} {key : Key} {value : String}

theorem unique {other : Settings} (first : Replaced old key value new)
    (second : Replaced old key value other) : new = other :=
  Except.ok.inj (first.assign.symm.trans second.assign)

/-- Whether a value is taken does not depend on the settings. -/
theorem transfer (replaced : Replaced old key value new) (other : Settings) :
    ∃ changed, Replaced other key value changed := by
  cases replaced with
  | catalog => exact ⟨_, .catalog⟩
  | sortField names => exact ⟨_, .sortField names⟩
  | sortAscending stands => exact ⟨_, .sortAscending stands⟩
  | outputColor stands => exact ⟨_, .outputColor stands⟩
  | listPath => exact ⟨_, .listPath⟩

theorem again (replaced : Replaced old key value new) : Replaced new key value new := by
  cases replaced with
  | catalog => exact .catalog
  | sortField names => exact .sortField names
  | sortAscending stands => exact .sortAscending stands
  | outputColor stands => exact .outputColor stands
  | listPath => exact .listPath

/-- Replacing different settings leads to the same settings in either order. -/
theorem diamond {left right : Settings} {first second : Key} {a b : String}
    (apart : first ≠ second) (one : Replaced old first a left) (two : Replaced old second b right) :
    ∃ both, Replaced left second b both ∧ Replaced right first a both := by
  cases one with
  | catalog =>
    cases two with
    | catalog => exact absurd rfl apart
    | sortField names => exact ⟨_, .sortField names, .catalog⟩
    | sortAscending stands => exact ⟨_, .sortAscending stands, .catalog⟩
    | outputColor stands => exact ⟨_, .outputColor stands, .catalog⟩
    | listPath => exact ⟨_, .listPath, .catalog⟩
  | sortField names =>
    cases two with
    | catalog => exact ⟨_, .catalog, .sortField names⟩
    | sortField => exact absurd rfl apart
    | sortAscending stands => exact ⟨_, .sortAscending stands, .sortField names⟩
    | outputColor stands => exact ⟨_, .outputColor stands, .sortField names⟩
    | listPath => exact ⟨_, .listPath, .sortField names⟩
  | sortAscending truth =>
    cases two with
    | catalog => exact ⟨_, .catalog, .sortAscending truth⟩
    | sortField names => exact ⟨_, .sortField names, .sortAscending truth⟩
    | sortAscending => exact absurd rfl apart
    | outputColor stands => exact ⟨_, .outputColor stands, .sortAscending truth⟩
    | listPath => exact ⟨_, .listPath, .sortAscending truth⟩
  | outputColor truth =>
    cases two with
    | catalog => exact ⟨_, .catalog, .outputColor truth⟩
    | sortField names => exact ⟨_, .sortField names, .outputColor truth⟩
    | sortAscending stands => exact ⟨_, .sortAscending stands, .outputColor truth⟩
    | outputColor => exact absurd rfl apart
    | listPath => exact ⟨_, .listPath, .outputColor truth⟩
  | listPath =>
    cases two with
    | catalog => exact ⟨_, .catalog, .listPath⟩
    | sortField names => exact ⟨_, .sortField names, .listPath⟩
    | sortAscending stands => exact ⟨_, .sortAscending stands, .listPath⟩
    | outputColor stands => exact ⟨_, .outputColor stands, .listPath⟩
    | listPath => exact absurd rfl apart

end Replaced

end Settings

end GameShelf
