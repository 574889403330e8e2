import GameShelf.Proofs.Files.Storing

namespace GameShelf

/-- Directories and devices stay where they are while files are written. -/
def Node.isFixed : Node → Bool
  | .directory => true
  | .device _ => true
  | _ => false

namespace FileTree

/-- The same directories and devices stand in two trees. Their files need not be the same. -/
structure Alike (one other : FileTree) : Prop where
  current : other.current = one.current
  stands (place : List String) (node : Node) (fixed : node.isFixed) :
    one.node? place = some node ↔ other.node? place = some node

namespace Alike

variable {one other last : FileTree}

theorem refl (tree : FileTree) : Alike tree tree :=
  ⟨rfl, fun _ _ _ => Iff.rfl⟩

theorem symm (alike : Alike one other) : Alike other one :=
  ⟨alike.current.symm, fun place node fixed => (alike.stands place node fixed).symm⟩

theorem trans (first : Alike one other) (second : Alike other last) : Alike one last :=
  ⟨second.current.trans first.current, fun place node fixed =>
    (first.stands place node fixed).trans (second.stands place node fixed)⟩

theorem keeps (alike : Alike one other) {node : Node} (fixed : node.isFixed) :
    Keeps node one other :=
  ⟨alike.current, fun place => (alike.stands place node fixed).mp⟩

end Alike

theorem alike_put {tree : FileTree} {place : List String}
    (free : ∀ node, tree.node? place = some node → node.isFixed = false) (content : ByteArray) :
    Alike tree (tree.put place (.file content)) := by
  have below : place ≠ [] := by
    rintro rfl
    cases free .directory rfl
  refine ⟨rfl, fun there node fixed => ?_⟩
  by_cases same : there = place
  · subst same
    have before : tree.node? there ≠ some node := by
      intro stood
      rw [free node stood] at fixed
      cases fixed
    have after : Node.file content ≠ node := by
      rintro rfl
      cases fixed
    simp [node?_put_self tree below, before, after]
  · rw [node?_put_of_ne tree same]

/-- A place takes a content unless a directory is there, or the device that has no room for it. -/
theorem exists_fill_iff {tree : FileTree} {place : List String} {content : ByteArray} :
    (∃ later, tree.fill place content = .ok later) ↔
      tree.node? place ≠ some .directory ∧
        (tree.node? place = some (.device .full) → content.isEmpty) := by
  rw [fill]
  cases stood : tree.node? place with
  | none => simp
  | some node =>
    cases node with
    | directory => simp
    | file content => simp
    | program content succeeds => simp
    | device kind =>
      by_cases full : kind = .full
      · by_cases empty : content.isEmpty <;> simp [full, empty]
      · simp [full]

theorem alike_of_fill {tree later : FileTree} {place : List String} {content : ByteArray}
    (filled : tree.fill place content = .ok later) : Alike tree later := by
  rw [fill] at filled
  split at filled
  case h_1 => cases filled
  case h_2 kind stood =>
    split at filled
    · cases filled
    · cases filled
      exact .refl tree
  case h_3 noDirectory noDevice =>
    cases filled
    refine alike_put (fun node stood => ?_) content
    cases node with
    | directory => exact absurd stood noDirectory
    | device kind => exact absurd stood (noDevice kind)
    | file _ => rfl
    | program _ _ => rfl

theorem alike_of_write {tree later : FileTree} {path : String} {content : ByteArray}
    (written : tree.write path content = .ok later) : Alike tree later := by
  obtain ⟨_, _, _, _, _, _, filled⟩ := of_write_eq_ok written
  exact alike_of_fill filled

/-- What can be written in one tree can be written in every tree that is like it. -/
theorem Alike.exists_write {one other later : FileTree} (alike : Alike one other) {path : String}
    {content : ByteArray} (written : one.write path content = .ok later) :
    ∃ last, other.write path content = .ok last := by
  obtain ⟨directory, name, place, located, noSlash, step, filled⟩ := of_write_eq_ok written
  have room : ∃ last, other.fill place content = .ok last := by
    rw [exists_fill_iff, Ne, ← alike.stands place .directory rfl,
      ← alike.stands place (.device .full) rfl]
    exact exists_fill_iff.mp ⟨later, filled⟩
  have keeps : Keeps .directory one other := alike.keeps rfl
  have found := keeps.locate located
  simpa only [write, found, noSlash, step, Bool.false_eq_true, if_false] using room

/-- No place of a tree is listed twice. -/
def Distinct (tree : FileTree) : Prop :=
  (tree.nodes.map Prod.fst).Nodup

theorem Distinct.put {tree : FileTree} (distinct : tree.Distinct) (place : List String)
    (node : Node) : (tree.put place node).Distinct := by
  cases found : tree.nodes.lookup place with
  | none =>
    have fresh : place ∉ tree.nodes.map Prod.fst := by
      rw [List.lookup_eq_none_iff] at found
      rintro listed
      obtain ⟨entry, member, rfl⟩ := List.mem_map.mp listed
      simpa using found entry member
    rw [put_of_lookup_eq_none found]
    exact Lookup.nodup_concat distinct fresh node
  | some old =>
    rw [put_of_lookup_eq_some found, Distinct, Lookup.map_fst_replace]
    exact distinct

theorem mem_inside_iff {tree : FileTree} {names : List String} {node : Node} :
    (names, node) ∈ tree.inside ↔ names ≠ [] ∧ (tree.current ++ names, node) ∈ tree.nodes := by
  simp only [inside, List.mem_filterMap, Prod.exists, Option.ite_none_right_eq_some,
    Bool.and_eq_true, List.isPrefixOf_iff_prefix, bne_iff_ne, Option.some.injEq, Prod.mk.injEq]
  constructor
  · rintro ⟨place, _, listed, ⟨⟨rest, rfl⟩, below⟩, rfl, rfl⟩
    rw [List.drop_left]
    exact ⟨by simpa using below, listed⟩
  · rintro ⟨below, listed⟩
    exact ⟨_, node, listed, ⟨List.prefix_append _ _, by simpa using below⟩, List.drop_left, rfl⟩

theorem lookup_inside (tree : FileTree) {names : List String} (below : names ≠ []) :
    tree.inside.lookup names = tree.nodes.lookup (tree.current ++ names) := by
  obtain ⟨nodes, current⟩ := tree
  induction nodes with
  | nil => rfl
  | cons entry nodes ih =>
    obtain ⟨place, node⟩ := entry
    simp only [inside] at ih ⊢
    by_cases inner : (current.isPrefixOf place && current != place) = true
    · rw [List.filterMap_cons_some (by rw [if_pos inner]), Lookup.lookup_cons_eq_ite,
        Lookup.lookup_cons_eq_ite, ih]
      simp only [Bool.and_eq_true, List.isPrefixOf_iff_prefix] at inner
      obtain ⟨rest, rfl⟩ := inner.1
      simp
    · rw [List.filterMap_cons_none (by rw [if_neg inner]), Lookup.lookup_cons_eq_ite, ih]
      have apart : current ++ names ≠ place := by
        rintro rfl
        simp [below] at inner
      simp [apart]

theorem node?_below (tree : FileTree) {names : List String} (below : names ≠ []) :
    tree.node? (tree.current ++ names) = tree.inside.lookup names := by
  rw [lookup_inside tree below, node?, if_neg (by simp [below])]

/-- What has changed since an earlier tree is what stands where it did not stand before. -/
theorem mem_changesSince_iff {tree earlier : FileTree} (distinct : tree.Distinct)
    {names : List String} {node : Node} :
    (names, node) ∈ tree.changesSince earlier ↔ names ≠ [] ∧
      tree.node? (tree.current ++ names) = some node ∧
      earlier.node? (earlier.current ++ names) ≠ some node := by
  rw [changesSince, List.mem_filter, mem_inside_iff, and_assoc]
  refine and_congr_right fun below => ?_
  rw [node?_below tree below, lookup_inside tree below, Lookup.lookup_eq_some_iff_mem distinct,
    node?_below earlier below, bne_iff_ne]

/-- Writing a file changes one place at most, and at that place is the file afterwards. -/
theorem node?_of_write {tree later : FileTree} {path : String} {content : ByteArray}
    (written : tree.write path content = .ok later) {there : List String} {node : Node}
    (changed : tree.node? there ≠ some node) (stands : later.node? there = some node) :
    tree.place path = .ok there ∧ node = .file content := by
  obtain ⟨directory, name, place, located, -, step, filled⟩ := of_write_eq_ok written
  have placed : tree.place path = .ok place := by simp [FileTree.place, located, step]
  rw [fill] at filled
  split at filled
  case h_1 => cases filled
  case h_2 =>
    split at filled
    · cases filled
    · cases filled
      exact absurd stands changed
  case h_3 noDirectory _ =>
    cases filled
    by_cases same : there = place
    · subst same
      have below : there ≠ [] := by
        rintro rfl
        exact noDirectory rfl
      rw [node?_put_self tree below, Option.some.injEq] at stands
      exact ⟨placed, stands.symm⟩
    · rw [node?_put_of_ne tree same] at stands
      exact absurd stands changed

theorem Distinct.write {tree later : FileTree} (distinct : tree.Distinct) {path : String}
    {content : ByteArray} (written : tree.write path content = .ok later) : later.Distinct := by
  obtain ⟨_, _, place, _, _, _, filled⟩ := of_write_eq_ok written
  rw [fill] at filled
  split at filled
  case h_1 => cases filled
  case h_2 =>
    split at filled
    · cases filled
    · cases filled
      exact distinct
  case h_3 =>
    cases filled
    exact distinct.put place _

end FileTree

end GameShelf
