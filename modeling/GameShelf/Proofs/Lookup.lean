namespace GameShelf.Lookup

variable {α β : Type}

theorem nodup_concat {entries : List (α × β)} (nodup : (entries.map Prod.fst).Nodup) {key : α}
    (fresh : key ∉ entries.map Prod.fst) (value : β) :
    ((entries ++ [(key, value)]).map Prod.fst).Nodup := by
  rw [List.map_append, List.nodup_append]
  refine ⟨nodup, by simp, fun other listed new single => ?_⟩
  rintro rfl
  rw [List.mem_singleton.mp single] at listed
  exact fresh listed

variable [BEq α]

theorem lookup_cons_eq_ite (entries : List (α × β)) (name key : α) (value : β) :
    List.lookup key ((name, value) :: entries) =
      if key == name then some value else entries.lookup key := by
  cases same : key == name <;> simp [List.lookup_cons, same]

variable [LawfulBEq α]

theorem lookup_eq_some_iff_mem {entries : List (α × β)} (nodup : (entries.map Prod.fst).Nodup)
    {key : α} {value : β} : entries.lookup key = some value ↔ (key, value) ∈ entries := by
  induction entries with
  | nil => simp
  | cons entry entries ih =>
    obtain ⟨name, first⟩ := entry
    obtain ⟨fresh, distinct⟩ := List.nodup_cons.mp nodup
    rw [lookup_cons_eq_ite, List.mem_cons, Prod.mk.injEq]
    by_cases here : key = name
    · subst here
      have notLater : (key, value) ∉ entries := fun later =>
        fresh (List.mem_map.mpr ⟨_, later, rfl⟩)
      simp [notLater, eq_comm]
    · simp [here, ih distinct]

/-- The entries with another value under a key, where they have one. -/
def replace (key : α) (value : β) (entries : List (α × β)) : List (α × β) :=
  entries.map fun entry => if entry.1 == key then (key, value) else entry

theorem map_fst_replace (entries : List (α × β)) (key : α) (value : β) :
    (replace key value entries).map Prod.fst = entries.map Prod.fst := by
  rw [replace, List.map_map]
  refine List.map_congr_left fun entry _ => ?_
  by_cases here : entry.1 = key <;> simp [here]

theorem replace_of_lookup_eq_none {entries : List (α × β)} {key : α}
    (missing : entries.lookup key = none) (value : β) : replace key value entries = entries := by
  rw [List.lookup_eq_none_iff] at missing
  calc replace key value entries = entries.map id := by
        refine List.map_congr_left fun entry member => ?_
        have apart : (entry.1 == key) = false := by
          simpa [BEq.comm] using missing entry member
        simp [apart]
    _ = entries := List.map_id entries

theorem replace_last {entries : List (α × β)} {key : α} (missing : entries.lookup key = none)
    (old new : β) : replace key new (entries ++ [(key, old)]) = entries ++ [(key, new)] := by
  have front := replace_of_lookup_eq_none missing new
  rw [replace] at front
  rw [replace, List.map_append, front]
  simp

theorem lookup_replace (entries : List (α × β)) (key other : α) (value : β) :
    (replace key value entries).lookup other =
      if other == key then (entries.lookup other).map fun _ => value
      else entries.lookup other := by
  induction entries with
  | nil => simp [replace]
  | cons entry entries ih =>
    obtain ⟨name, old⟩ := entry
    by_cases here : name = key
    · subst here
      have changed : replace name value ((name, old) :: entries) =
          (name, value) :: replace name value entries := by
        simp [replace]
      rw [changed, lookup_cons_eq_ite, lookup_cons_eq_ite, ih]
      by_cases same : other = name <;> simp [same]
    · have kept : replace key value ((name, old) :: entries) =
          (name, old) :: replace key value entries := by
        simp [replace, here]
      rw [kept, lookup_cons_eq_ite, lookup_cons_eq_ite, ih]
      by_cases same : other = name
      · simp [same, here]
      · simp [same]

theorem replace_replace (entries : List (α × β)) (key : α) (first second : β) :
    replace key second (replace key first entries) = replace key second entries := by
  rw [replace, replace, replace, List.map_map]
  refine List.map_congr_left fun entry _ => ?_
  by_cases here : entry.1 = key <;> simp [here]

end GameShelf.Lookup
