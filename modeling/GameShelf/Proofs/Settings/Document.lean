import GameShelf.Proofs.Lookup
import GameShelf.Proofs.Toml.Lines
import GameShelf.Settings.File

namespace GameShelf

namespace Toml

theorem Entries.put_last {above : Entries} {name : String} (alone : above.lookup name = none)
    (old new : Toml) : Entries.put (above ++ [(name, old)]) name new = above ++ [(name, new)] := by
  have there : ((above ++ [(name, old)]).lookup name).isSome = true := by
    simp [List.lookup_append, alone]
  rw [put, if_pos there]
  exact Lookup.replace_last alone old new

namespace Draft

theorem enter?_new {entries : Entries} {name : String} (new : entries.lookup name = none)
    (current : List String) :
    enter? ⟨entries, current⟩ false [] name =
      some ⟨entries ++ [(name, .table .header [])], [name]⟩ := by
  simp [enter?, Entries.openHeader?, new, Entries.put]

theorem assign?_start {entries : Entries} {key : String} (new : entries.lookup key = none)
    (value : Toml) :
    assign? ⟨entries, []⟩ [] key value = some ⟨entries ++ [(key, value)], []⟩ := by
  simp [assign?, Entries.change?, Entries.insert?, Entries.add?, new]

theorem assign?_section {above inner : Entries} {name key : String}
    (alone : above.lookup name = none) (new : inner.lookup key = none) (value : Toml) :
    assign? ⟨above ++ [(name, table .header inner)], [name]⟩ [] key value =
      some ⟨above ++ [(name, table .header (inner ++ [(key, value)]))], [name]⟩ := by
  have found : (above ++ [(name, table .header inner)]).lookup name =
      some (table .header inner) := by
    simp [List.lookup_append, alone]
  simp [assign?, Entries.change?, Entries.insert?, Entries.add?, new, found,
    Entries.put_last alone]

end Draft

end Toml

namespace Settings

open Toml

/-- The entry of a key that may have a value. -/
def optionalEntry (key : String) (value : Option Toml) : Toml.Entries :=
  (value.map fun value => (key, value)).toList

/-- The entries of the document. -/
def entries (settings : Settings) : Toml.Entries :=
  [("version", .integer version)] ++
    optionalEntry "catalog" (settings.catalog.map Toml.string) ++
    [("sort", .table .header (optionalEntry "field" (settings.sortField.map Toml.string) ++
      optionalEntry "ascending" (settings.sortAscending.map Toml.boolean)))] ++
    [("output", .table .header (optionalEntry "color" (settings.outputColor.map Toml.boolean)))] ++
    [("list", .table .header (optionalEntry "path" (settings.listPath.map Toml.string)))]

section Lines

variable {α : Type} {spell : α → List Char} {form : α → Toml}
  (spells : ∀ value, Reader.Spells (spell value) (form value)) (value : Option α)
  {key : String} {rest : List Char} {last : Draft}

include spells

theorem reads_entryLine_start {above : Toml.Entries}
    (later : Reader.Reads ⟨above ++ optionalEntry key (value.map form), []⟩ rest last)
    (bare : Reader.IsBare key.toList) (new : above.lookup key = none) :
    Reader.Reads ⟨above, []⟩ (entryLine key (value.map spell) ++ rest) last := by
  cases value with
  | none => simpa [optionalEntry, entryLine] using later
  | some value =>
    have line := Reader.Reads.entry bare (spells value)
      (by rw [String.ofList_toList]; exact Draft.assign?_start new _) later
    simpa [entryLine] using line

theorem reads_entryLine_section {above inner : Toml.Entries} {name : String}
    (later : Reader.Reads ⟨above ++
      [(name, .table .header (inner ++ optionalEntry key (value.map form)))], [name]⟩ rest last)
    (bare : Reader.IsBare key.toList) (alone : above.lookup name = none)
    (new : inner.lookup key = none) :
    Reader.Reads ⟨above ++ [(name, .table .header inner)], [name]⟩
      (entryLine key (value.map spell) ++ rest) last := by
  cases value with
  | none => simpa [optionalEntry, entryLine] using later
  | some value =>
    have line := Reader.Reads.entry bare (spells value)
      (by rw [String.ofList_toList]; exact Draft.assign?_section alone new _) later
    simpa [entryLine] using line

end Lines

theorem reads_header {entries : Toml.Entries} {current : List String} {name : String}
    {rest : List Char} {last : Draft}
    (later : Reader.Reads ⟨entries ++ [(name, .table .header [])], [name]⟩ rest last)
    (bare : Reader.IsBare name.toList) (new : entries.lookup name = none) :
    Reader.Reads ⟨entries, current⟩ ('\n' :: '[' :: (name.toList ++ ']' :: '\n' :: rest)) last :=
  .blank (.header bare (by rw [String.ofList_toList]; exact Draft.enter?_new new current) later)

theorem spells_textValue (text : String) : Reader.Spells (textValue text) (.string text) := by
  have spells := Reader.spells_encode text.toList
  rwa [String.ofList_toList] at spells

@[simp]
theorem lookup_optionalEntry (key other : String) (value : Option Toml) :
    (optionalEntry other value).lookup key = if key == other then value else none := by
  cases value with
  | none => simp [optionalEntry]
  | some value => exact Lookup.lookup_cons_eq_ite [] other key value

theorem reads_text (settings : Settings) :
    Reader.Reads .start settings.text.toList ⟨settings.entries, ["list"]⟩ := by
  have sort : "\n[sort]\n".toList = '\n' :: '[' :: ("sort".toList ++ [']', '\n']) := by decide
  have output : "\n[output]\n".toList = '\n' :: '[' :: ("output".toList ++ [']', '\n']) := by
    decide
  have list : "\n[list]\n".toList = '\n' :: '[' :: ("list".toList ++ [']', '\n']) := by decide
  rw [text, String.toList_ofList, sort, output, list, ← List.append_nil (entryLine "path" _)]
  simp only [List.append_assoc, List.cons_append, List.nil_append]
  -- line by line; what is left over each time is that the name of the line is new
  refine reads_entryLine_start (fun _ : Unit => Reader.spells_one) (some ()) ?_ (by decide) rfl
  refine reads_entryLine_start spells_textValue _ ?_ (by decide) rfl
  refine reads_header ?_ (by decide) ?_
  refine reads_entryLine_section spells_textValue _ ?_ (by decide) ?_ rfl
  refine reads_entryLine_section Reader.spells_truth _ ?_ (by decide) ?_ ?_
  refine reads_header ?_ (by decide) ?_
  refine reads_entryLine_section Reader.spells_truth _ ?_ (by decide) ?_ rfl
  refine reads_header ?_ (by decide) ?_
  refine reads_entryLine_section spells_textValue _ ?_ (by decide) ?_ rfl
  · exact .done _
  all_goals
    simp [List.lookup_append, Lookup.lookup_cons_eq_ite, -List.lookup_eq_none_iff]

theorem carriageReturn_not_mem_entryLine {key : String} (plain : '\r' ∉ key.toList)
    {value : Option (List Char)} (inside : ∀ written, value = some written → '\r' ∉ written) :
    '\r' ∉ entryLine key value := by
  cases value with
  | none => exact List.not_mem_nil
  | some written => simp [entryLine, plain, inside written rfl]

theorem carriageReturn_not_mem_text (settings : Settings) : '\r' ∉ settings.text.toList := by
  have texts (value : Option String) (written : List Char)
      (spelled : value.map textValue = some written) : '\r' ∉ written := by
    obtain ⟨text, -, rfl⟩ := Option.map_eq_some_iff.mp spelled
    exact QuotedForm.carriageReturn_not_mem_encode text.toList
  have truths (value : Option Bool) (written : List Char)
      (spelled : value.map Json.boolText = some written) : '\r' ∉ written := by
    obtain ⟨truth, -, rfl⟩ := Option.map_eq_some_iff.mp spelled
    cases truth <;> decide
  rw [text, String.toList_ofList]
  simp only [List.mem_append, not_or]
  refine ⟨⟨⟨⟨⟨⟨⟨⟨by decide, ?_⟩, by decide⟩, ?_⟩, ?_⟩, by decide⟩, ?_⟩, by decide⟩, ?_⟩
  · exact carriageReturn_not_mem_entryLine (by decide) (texts _)
  · exact carriageReturn_not_mem_entryLine (by decide) (texts _)
  · exact carriageReturn_not_mem_entryLine (by decide) (truths _)
  · exact carriageReturn_not_mem_entryLine (by decide) (truths _)
  · exact carriageReturn_not_mem_entryLine (by decide) (texts _)

/-- The document is read as the entries that were written. -/
theorem toml_read?_text (settings : Settings) :
    Toml.read? settings.text = some settings.entries := by
  have start : settings.text.toList.head? ≠ some '\ufeff' := by
    have first : "version".toList = 'v' :: "ersion".toList := by decide
    simp [text, entryLine, first]
  have whole := (reads_text settings).read? (carriageReturn_not_mem_text settings) start
  rwa [String.ofList_toList] at whole

theorem readText?_map (value : Option String) : readText? (value.map Toml.string) = some value := by
  cases value <;> rfl

theorem readBoolean?_map (value : Option Bool) :
    readBoolean? (value.map Toml.boolean) = some value := by
  cases value <;> rfl

theorem ofEntries?_entries (settings : Settings) :
    ofEntries? settings.entries = some settings := by
  have versions : settings.entries.lookup "version" = some (.integer 1) := by
    simp [entries, version]
  have catalogs : settings.entries.lookup "catalog" = settings.catalog.map Toml.string := by
    simp [entries, List.lookup_append, Lookup.lookup_cons_eq_ite]
  have sorts : settings.entries.lookup "sort" = some (.table .header
      (optionalEntry "field" (settings.sortField.map Toml.string) ++
        optionalEntry "ascending" (settings.sortAscending.map Toml.boolean))) := by
    simp [entries, List.lookup_append, Lookup.lookup_cons_eq_ite]
  have outputs : settings.entries.lookup "output" = some (.table .header
      (optionalEntry "color" (settings.outputColor.map Toml.boolean))) := by
    simp [entries, List.lookup_append, Lookup.lookup_cons_eq_ite]
  have lists : settings.entries.lookup "list" = some (.table .header
      (optionalEntry "path" (settings.listPath.map Toml.string))) := by
    simp [entries, List.lookup_append, Lookup.lookup_cons_eq_ite]
  simp [ofEntries?, versions, catalogs, sorts, outputs, lists, isVersion, valuesOf?,
    readText?_map, readBoolean?_map, List.lookup_append]

/-- Reading the document gives back the settings that it was written for. -/
theorem read?_text (settings : Settings) : read? settings.text = some settings := by
  rw [read?, toml_read?_text, Option.bind_some, ofEntries?_entries]

end Settings

end GameShelf
