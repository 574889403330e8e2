import GameShelf.Proofs.Shortlist.Resolution
import GameShelf.Proofs.Shortlist.Spelling
import GameShelf.Proofs.Text.Trimming

namespace GameShelf

namespace Text

theorem isEmpty_trim_iff {text : String} : (trim text).isEmpty ↔ ∀ c ∈ text.toList, isBlank c := by
  rw [String.isEmpty_iff, trim_eq_empty_iff]

end Text

/-- Dropping whatever has a key of the middle part leaves the other two, if all keys differ. -/
theorem filter_apart_from_middle {α β : Type} [DecidableEq β] {key : α → β}
    {front middle back : List α} (distinct : ((front ++ middle ++ back).map key).Nodup) :
    ((front ++ middle ++ back).filter fun x => middle.all fun y => key x != key y) =
      front ++ back := by
  simp only [List.map_append] at distinct
  obtain ⟨before, _, fromBack⟩ := List.nodup_append.mp distinct
  obtain ⟨_, _, fromFront⟩ := List.nodup_append.mp before
  have keepsFront : (front.filter fun x => middle.all fun y => key x != key y) = front := by
    rw [List.filter_eq_self]
    intro x inFront
    rw [List.all_eq_true]
    intro y inMiddle
    exact bne_iff_ne.mpr
      (fromFront _ (List.mem_map_of_mem inFront) _ (List.mem_map_of_mem inMiddle))
  have dropsMiddle : (middle.filter fun x => middle.all fun y => key x != key y) = [] := by
    rw [List.filter_eq_nil_iff]
    intro x inMiddle all
    exact absurd (List.all_eq_true.mp all x inMiddle) (by simp)
  have keepsBack : (back.filter fun x => middle.all fun y => key x != key y) = back := by
    rw [List.filter_eq_self]
    intro x inBack
    rw [List.all_eq_true]
    intro y inMiddle
    have apart := fromBack (key y) (List.mem_append_right _ (List.mem_map_of_mem inMiddle)) _
      (List.mem_map_of_mem inBack)
    exact bne_iff_ne.mpr apart.symm
  rw [List.filter_append, List.filter_append, keepsFront, dropsMiddle, keepsBack, List.append_nil]

namespace Selection

/-- Resolving a word never complains about a lack of input, candidates or names. -/
theorem Resolves.about_number {word : String} {names : List String} {error : ShortlistError}
    (resolves : Resolves word names (.error error)) :
    error ≠ .emptyInput ∧ error ≠ .noCandidates ∧ error ≠ .emptyList := by
  cases resolves <;> simp

end Selection

namespace Shortlist

variable {list after : Shortlist} {selection : String} {block : Block} {n : Nat}

/-- The list without the positions of a block. -/
def without (list : Shortlist) (block : Block) : Shortlist :=
  ⟨list.entries.take block.start ++ list.entries.drop block.stop⟩

theorem names_without (list : Shortlist) (block : Block) :
    (list.without block).names =
      list.names.take block.start ++ list.names.drop block.stop := by
  simp only [without, names, List.map_append, List.map_take, List.map_drop]

theorem length_names (list : Shortlist) : list.names.length = list.count := by
  rw [names, count, List.length_map]

theorem count_without (ordered : block.start ≤ block.stop) (within : block.stop ≤ list.count) :
    (list.without block).count + block.size = list.count := by
  simp only [without, count, Block.size, List.length_append, List.length_take,
    List.length_drop] at within ⊢
  omega

theorem Keyed.map_lower_names (keyed : list.Keyed) :
    list.names.map Text.lower = list.entries.map Entry.key := by
  rw [names, List.map_map]
  exact List.map_congr_left fun entry member => (keyed.lowered entry member).symm

theorem entries_foldl_erase (list : Shortlist) (names : List String) :
    (names.foldl erase list).entries =
      list.entries.filter fun entry => names.all fun name => entry.key != Text.lower name := by
  induction names generalizing list with
  | nil => simp
  | cons name names ih =>
    rw [List.foldl_cons, ih, Shortlist.erase, List.filter_filter]
    refine List.filter_congr fun entry _ => ?_
    rw [List.all_cons, Bool.and_comm]

/-- Erasing by key the names at some positions drops these positions and no others. -/
theorem Keyed.foldl_erase_block (keyed : list.Keyed) (ordered : block.start ≤ block.stop) :
    (block.of list.names).foldl Shortlist.erase list = list.without block := by
  have whole := Block.take_append_of_append_drop ordered list.entries
  have distinct : (list.entries.map Entry.key).Nodup := by
    rw [← keyed.map_lower_names]
    exact nodup_of_ascending keyed.names_ascending
  -- The names are read off before anything is erased, so their keys are those of the block.
  have byKey (entry : Entry) : ((block.of list.names).all (entry.key != Text.lower ·)) =
      (block.of list.entries).all (entry.key != ·.key) := by
    calc ((block.of list.names).all (entry.key != Text.lower ·))
        = (block.of (list.names.map Text.lower)).all (entry.key != ·) := by
          rw [Block.of_map, List.all_map]
          rfl
      _ = (block.of list.entries).all (entry.key != ·.key) := by
          rw [keyed.map_lower_names, Block.of_map, List.all_map]
          rfl
  have kept := entries_foldl_erase list (block.of list.names)
  simp only [byKey] at kept
  rw [← whole] at distinct
  have cut := filter_apart_from_middle distinct
  rw [whole] at cut
  rw [without, ← cut, ← kept]

/-- Removing cuts the selected block out, and counts its positions. -/
theorem Keyed.strike_of_selects (keyed : list.Keyed) (filled : ¬ (Text.trim selection).isEmpty)
    (selects : Selection.Selects (Text.trim selection) list.names block) :
    list.strike selection = (list.without block, .ok block.size) := by
  cases selects with
  | everything all =>
    rw [strike_of_everything filled all, length_names]
    simp [without, empty, count, Block.size]
  | resolved specific resolves =>
    have inside := resolves.inside
    have nonempty : ¬ list.isEmpty := by
      intro none
      rw [isEmpty, List.isEmpty_iff] at none
      simp only [Block.Inside, length_names, count, none, List.length_nil] at inside
      omega
    rw [strike_of_resolved filled specific nonempty (Selection.resolve_of_resolves resolves),
      keyed.foldl_erase_block inside.1.le]

/-- Removing succeeds by a selection of a block only. -/
theorem exists_selects_of_strike (struck : list.strike selection = (after, .ok n)) :
    ¬ (Text.trim selection).isEmpty ∧
      ∃ block, Selection.Selects (Text.trim selection) list.names block := by
  by_cases filled : (Text.trim selection).isEmpty
  · rw [strike_of_blank filled] at struck
    cases struck
  refine ⟨filled, ?_⟩
  by_cases all : Selection.isAll (Text.trim selection)
  · exact ⟨_, .everything all⟩
  by_cases nothing : list.isEmpty
  · rw [strike_of_nothing filled all nothing] at struck
    cases struck
  cases outcome : Selection.resolve (Text.trim selection) list.names with
  | error error =>
    rw [strike_of_refused filled all nothing outcome] at struck
    cases struck
  | ok block => exact ⟨block, .resolved all (Selection.resolve_eq_iff.mp outcome)⟩

theorem strike_of_specific_ne (filled : ¬ (Text.trim selection).isEmpty)
    (specific : ¬ Selection.isAll (Text.trim selection)) (some : ¬ list.isEmpty) :
    (list.strike selection).2 ≠ .error .emptyInput ∧
      (list.strike selection).2 ≠ .error .emptyList := by
  cases outcome : Selection.resolve (Text.trim selection) list.names with
  | ok block => simp [strike_of_resolved filled specific some outcome]
  | error error =>
    obtain ⟨notInput, _, notList⟩ := (Selection.resolve_eq_iff.mp outcome).about_number
    simp [strike_of_refused filled specific some outcome, notInput, notList]

theorem strike_emptyInput_iff :
    (list.strike selection).2 = .error .emptyInput ↔ (Text.trim selection).isEmpty := by
  refine ⟨fun failed => ?_, fun blank => by rw [strike_of_blank blank]⟩
  by_contra filled
  by_cases all : Selection.isAll (Text.trim selection)
  · rw [strike_of_everything filled all] at failed
    cases failed
  by_cases nothing : list.isEmpty
  · rw [strike_of_nothing filled all nothing] at failed
    cases failed
  · exact (strike_of_specific_ne filled all nothing).1 failed

theorem strike_emptyList_iff :
    (list.strike selection).2 = .error .emptyList ↔ ¬ (Text.trim selection).isEmpty ∧
      ¬ Selection.isAll (Text.trim selection) ∧ list.isEmpty := by
  constructor
  · intro failed
    by_cases blank : (Text.trim selection).isEmpty
    · rw [strike_of_blank blank] at failed
      cases failed
    by_cases all : Selection.isAll (Text.trim selection)
    · rw [strike_of_everything blank all] at failed
      cases failed
    by_cases nothing : list.isEmpty
    · exact ⟨blank, all, nothing⟩
    · exact absurd failed (strike_of_specific_ne blank all nothing).2
  · rintro ⟨filled, specific, nothing⟩
    rw [strike_of_nothing filled specific nothing]

/-- A name is the only one with its key, so a word that names it cuts it alone. -/
theorem Keyed.exists_selects_of_named (keyed : list.Keyed) {word listed : String}
    (specific : ¬ Selection.isAll word) (member : listed ∈ list.names)
    (same : Text.lower listed = Text.lower word) :
    ∃ i, Selection.Selects word list.names ⟨i, i + 1⟩ ∧
      list.names.take i ++ list.names.drop (i + 1) = list.names.erase listed := by
  cases found : Selection.findName? word list.names with
  | none => exact absurd same (Selection.findName?_eq_none_iff.mp found listed member)
  | some i =>
    have named := Selection.findName?_eq_some_iff.mp found
    refine ⟨i, .resolved specific (.name named), ?_⟩
    obtain ⟨name, atName, alike, unnamed⟩ := named
    obtain ⟨bound, rfl⟩ := List.getElem?_eq_some_iff.mp atName
    have equal : list.names[i] = listed :=
      keyed.eq_of_lower_eq (List.getElem_mem bound) member (alike.trans same.symm)
    have fresh : listed ∉ list.names.take i := fun earlier => unnamed listed earlier same
    have whole : list.names = list.names.take i ++ listed :: list.names.drop (i + 1) := by
      rw [← equal, List.getElem_cons_drop bound, List.take_append_drop]
    conv_rhs => rw [whole]
    rw [List.erase_append_right _ fresh, List.erase_cons_head]

/-- Removing from any list that calls can lead to cuts the selected block out of its names, and
says how many positions that was. A name that is removed by its name goes alone. Without a
selection, and without names to select from, removing says so. -/
theorem remove_cuts_selected_block (calls : List Call) (selection : String) :
    let list := empty.run calls
    let word := Text.trim selection
    (∀ after n, list.remove selection = .ok (after, n) →
      ∃ block, Selection.Selects word list.names block ∧
        after.names = list.names.take block.start ++ list.names.drop block.stop ∧
        n = block.size ∧ after.count + n = list.count) ∧
      (∀ block, word ≠ "" → Selection.Selects word list.names block →
        ∃ after, list.remove selection = .ok (after, block.size)) ∧
      (∀ listed ∈ list.names, word ≠ "" → ¬ Selection.isAll word →
        Text.lower listed = Text.lower word →
          ∃ after, list.remove selection = .ok (after, 1) ∧
            after.names = list.names.erase listed) ∧
      (list.remove selection = .error .emptyInput ↔ ∀ c ∈ selection.toList, Text.isBlank c) ∧
      (list.remove selection = .error .emptyList ↔
        (∃ c ∈ selection.toList, ¬ Text.isBlank c) ∧ ¬ Selection.isAll word ∧ list.count = 0) := by
  intro list word
  have keyed : list.Keyed := keyed_run calls
  have blank : word.isEmpty ↔ ∀ c ∈ selection.toList, Text.isBlank c := Text.isEmpty_trim_iff
  have removed {block : Block} (filled : word ≠ "")
      (selects : Selection.Selects word list.names block) :
      list.remove selection = .ok (list.without block, block.size) := by
    rw [remove, Change.result_eq_ok_iff]
    exact keyed.strike_of_selects (by simpa using filled) selects
  refine ⟨?_, ?_, ?_, ?_, ?_⟩
  · intro after n succeeds
    rw [remove, Change.result_eq_ok_iff] at succeeds
    obtain ⟨filled, block, selects⟩ := exists_selects_of_strike succeeds
    rw [keyed.strike_of_selects filled selects] at succeeds
    cases succeeds
    obtain ⟨ordered, within⟩ := selects.bounds
    rw [length_names] at within
    exact ⟨block, selects, names_without list block, rfl, count_without ordered within⟩
  · intro block filled selects
    exact ⟨_, removed filled selects⟩
  · intro listed member filled specific same
    obtain ⟨i, selects, erased⟩ := keyed.exists_selects_of_named specific member same
    refine ⟨_, ?_, (names_without list ⟨i, i + 1⟩).trans erased⟩
    rw [removed filled selects, Block.size, Nat.add_sub_cancel_left]
  · rw [remove, Change.result_eq_error_iff, strike_emptyInput_iff]
    exact blank
  · have filled : ¬ word.isEmpty ↔ ∃ c ∈ selection.toList, ¬ Text.isBlank c := by
      simp only [blank, not_forall, exists_prop]
    have nothing : list.isEmpty ↔ list.count = 0 := by
      rw [isEmpty, count, List.isEmpty_iff, List.length_eq_zero_iff]
    rw [remove, Change.result_eq_error_iff, strike_emptyList_iff, ← filled, ← nothing]

end Shortlist

end GameShelf
