import GameShelf.Proofs.Catalog.Reload
import GameShelf.Proofs.Shortlist.History
import GameShelf.Proofs.Shortlist.Saving
import GameShelf.Proofs.Text.Occurrence

namespace GameShelf.Shortlist

variable {list other : Shortlist}

/-- The text is the names with line feeds between them, and one more behind the last. -/
theorem toList_text (list : Shortlist) :
    list.text.toList = ['\n'].intercalate (list.names.map String.toList ++ [[]]) := by
  rw [text]
  induction list.names with
  | nil => rfl
  | cons name names ih =>
    obtain ⟨next, rest, more⟩ : ∃ next rest, names.map String.toList ++ [[]] = next :: rest :=
      List.exists_cons_of_ne_nil (List.append_ne_nil_of_right_ne_nil _ (List.cons_ne_nil [] []))
    rw [List.map_cons, String.join_cons, String.toList_append, ih, List.map_cons,
      List.cons_append, more, List.intercalate_cons_cons, String.toList_append]
    rfl

theorem getLast?_text (list : Shortlist) :
    list.text.toList.getLast? = if list.isEmpty then none else some '\n' := by
  obtain ⟨entries⟩ := list
  rcases List.eq_nil_or_concat entries with rfl | ⟨front, last, rfl⟩
  · rfl
  · simp [text, names, isEmpty, String.toList_join]

theorem splitOn_text (unbroken : ∀ name ∈ list.names, '\n' ∉ name.toList) :
    list.text.toList.splitOn '\n' = list.names.map String.toList ++ [[]] := by
  rw [toList_text]
  refine List.splitOn_intercalate '\n' ?_ (List.append_ne_nil_of_right_ne_nil _ (by simp))
  intro line member
  rcases List.mem_append.mp member with inside | last
  · obtain ⟨name, listed, rfl⟩ := List.mem_map.mp inside
    exact unbroken name listed
  · simp [List.mem_singleton.mp last]

theorem names_of_text (unbroken : ∀ name ∈ list.names, '\n' ∉ name.toList)
    (unbrokenToo : ∀ name ∈ other.names, '\n' ∉ name.toList) (same : list.text = other.text) :
    list.names = other.names := by
  have lines := splitOn_text unbroken
  rw [same, splitOn_text unbrokenToo] at lines
  have texts := List.append_cancel_right lines
  exact (List.map_injective_iff.mpr (fun _ _ => String.toList_injective) texts).symm

/-- Each call adds games of catalogs that load. -/
def FromCatalogs (calls : List Call) : Prop :=
  ∀ call ∈ calls, ∃ selection candidates, call = .add selection candidates ∧
    ∀ game ∈ candidates, ∃ path content games,
      Catalog.ofFile path (.ok content) = .ok games ∧ game ∈ games

/-- A sink with room enough gets the whole text of a list. The text ends with a line feed unless the
list is empty, and its lines are the names exactly if no name holds a line feed; lists without such
names have the same text only if they have the same names. -/
theorem lines_are_names_iff (calls : List Call) :
    let list := empty.run calls
    (∀ room flushFails, list.bytes.length ≤ room →
        (list.save ⟨some room, flushFails, []⟩).1.taken = list.text.toUTF8.data.toList) ∧
      list.text.toList.getLast? = (if list.isEmpty then none else some '\n') ∧
      (list.text.toList.splitOn '\n' = list.names.map String.toList ++ [[]] ↔
        ∀ name ∈ list.names, '\n' ∉ name.toList) ∧
      ∀ others, (∀ name ∈ list.names ++ (empty.run others).names, '\n' ∉ name.toList) →
        list.text = (empty.run others).text → list.names = (empty.run others).names := by
  intro list
  refine ⟨?_, getLast?_text list, ⟨?_, splitOn_text⟩, ?_⟩
  · exact fun room flushFails fits => taken_save fits flushFails
  · intro lines name member
    have line : name.toList ∈ list.text.toList.splitOn '\n' := by
      rw [lines]
      exact List.mem_append_left _ (List.mem_map_of_mem member)
    exact Text.not_mem_of_mem_splitOn line
  · intro others unbroken
    obtain ⟨here, there⟩ := List.forall_mem_append.mp unbroken
    exact names_of_text here there

/-- A game of this name. -/
def named (name : String) : Game :=
  ⟨name, 1, 3, 4, 60, 60, default, 1, default, 1997⟩

/-- Any names are those of a catalog that loads. -/
theorem exists_ofFile_named (path : String) (names : List String) :
    ∃ content, Catalog.ofFile path (.ok content) = .ok (names.map named) := by
  have finite : Catalog.HasFiniteScores (names.map named) := by
    intro game member
    obtain ⟨name, -, rfl⟩ := List.mem_map.mp member
    exact ⟨rfl, rfl⟩
  have survive : Score.Survives default := by decide +kernel
  obtain ⟨reloaded, loads, -, same⟩ := Catalog.reloads finite path _ List.mem_cons_self
  rw [same.mpr] at loads
  · exact ⟨_, loads⟩
  · intro game member
    obtain ⟨name, -, rfl⟩ := List.mem_map.mp member
    exact ⟨survive, survive⟩

theorem fromCatalogs_named (names : List String) :
    FromCatalogs [.add "all" (names.map named)] := by
  intro call member
  obtain ⟨content, loads⟩ := exists_ofFile_named "board_games.json" names
  refine ⟨_, _, List.mem_singleton.mp member, fun game inside => ?_⟩
  exact ⟨_, _, _, loads, inside⟩

/-- One game whose name goes over two lines is saved as the two games are that are called like its
lines. -/
theorem saved_alike_of_broken_name :
    let one := [Call.add "all" (["Catan\nSeafarers"].map named)]
    let two := [Call.add "all" (["Catan", "Seafarers"].map named)]
    FromCatalogs one ∧ FromCatalogs two ∧ (empty.run one).names ≠ (empty.run two).names ∧
      (empty.run one).text = (empty.run two).text ∧
      (empty.run one).text.toList.splitOn '\n' ≠
        (empty.run one).names.map String.toList ++ [[]] := by
  refine ⟨fromCatalogs_named _, fromCatalogs_named _, ?_, ?_, ?_⟩ <;> decide +kernel

end GameShelf.Shortlist
