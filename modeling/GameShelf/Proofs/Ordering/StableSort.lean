namespace GameShelf
open Std

variable {α : Type} {cmp : α → α → Ordering}

/-- `sorted` holds the elements of `source` in the order of `cmp`; those that tie with one another
stand as they did in `source`. -/
structure StableSort (cmp : α → α → Ordering) (source sorted : List α) : Prop where
  perm : sorted.Perm source
  ordered : sorted.Pairwise fun a b => cmp a b ≠ .gt
  ties : ∀ a, (sorted.filter fun b => cmp a b == .eq) = source.filter fun b => cmp a b == .eq

theorem not_gt_of_mem_cons [ReflCmp cmp] {a b : α} {rest : List α}
    (ordered : (b :: rest).Pairwise fun a b => cmp a b ≠ .gt) (member : a ∈ b :: rest) :
    cmp b a ≠ .gt := by
  rcases List.mem_cons.mp member with rfl | later
  · simp [ReflCmp.compare_self]
  · exact (List.pairwise_cons.mp ordered).1 a later

/-- An ordered list is determined by its classes of ties: its head is the head of a class, and the
classes without it are those of its tail. -/
theorem eq_of_same_ties [TransCmp cmp] {xs ys : List α}
    (orderedXs : xs.Pairwise fun a b => cmp a b ≠ .gt)
    (orderedYs : ys.Pairwise fun a b => cmp a b ≠ .gt)
    (same : ∀ a, (xs.filter fun b => cmp a b == .eq) = ys.filter fun b => cmp a b == .eq) :
    xs = ys := by
  induction xs generalizing ys with
  | nil =>
    cases ys with
    | nil => rfl
    | cons b ys => simpa [ReflCmp.compare_self] using same b
  | cons a xs ih =>
    cases ys with
    | nil => simpa [ReflCmp.compare_self] using same a
    | cons b ys =>
      have inYs : a ∈ b :: ys := by
        have member : a ∈ (a :: xs).filter fun c => cmp a c == .eq := by
          simp [ReflCmp.compare_self]
        rw [same a] at member
        exact (List.mem_filter.mp member).1
      have inXs : b ∈ a :: xs := by
        have member : b ∈ (b :: ys).filter fun c => cmp b c == .eq := by
          simp [ReflCmp.compare_self]
        rw [← same b] at member
        exact (List.mem_filter.mp member).1
      have notBefore := not_gt_of_mem_cons orderedYs inYs
      have notAfter := not_gt_of_mem_cons orderedXs inXs
      have tied : cmp a b = .eq := by
        have turned : cmp b a = (cmp a b).swap := OrientedCmp.eq_swap
        cases outcome : cmp a b <;> simp_all
      have heads := same a
      simp only [List.filter_cons, ReflCmp.compare_self, tied, beq_self_eq_true, if_true,
        List.cons.injEq] at heads
      obtain ⟨rfl, _⟩ := heads
      congr 1
      refine ih orderedXs.tail orderedYs.tail fun c => ?_
      have classes := same c
      by_cases joins : cmp c a == .eq <;> simpa [List.filter_cons, joins] using classes

theorem StableSort.unique [TransCmp cmp] {source xs ys : List α}
    (first : StableSort cmp source xs) (second : StableSort cmp source ys) : xs = ys :=
  eq_of_same_ties first.ordered second.ordered fun a => (first.ties a).trans (second.ties a).symm

/-- A test that holds of one class of ties finds the same element before sorting and after. -/
theorem StableSort.find?_eq {source sorted : List α}
    (stable : StableSort cmp source sorted) {p : α → Bool}
    (ofClass : ∀ a, p a → ∀ b, p b = (cmp a b == .eq)) : sorted.find? p = source.find? p := by
  cases found : source.find? p with
  | none =>
    rw [List.find?_eq_none] at found ⊢
    intro a member
    exact found a (stable.perm.mem_iff.mp member)
  | some a =>
    have tied : p = (cmp a · == .eq) := funext (ofClass a (List.find?_some found))
    rw [← found, tied, ← List.head?_filter, ← List.head?_filter, stable.ties a]

/-- Elements may be left out before sorting or after it. -/
theorem StableSort.filter {source sorted : List α} (stable : StableSort cmp source sorted)
    (p : α → Bool) : StableSort cmp (source.filter p) (sorted.filter p) := by
  refine ⟨stable.perm.filter p, stable.ordered.filter p, fun a => ?_⟩
  have classes := congrArg (List.filter p) (stable.ties a)
  simp only [List.filter_filter] at classes ⊢
  simpa only [Bool.and_comm] using classes

theorem isLE_total [OrientedCmp cmp] (a b : α) : ((cmp a b).isLE || (cmp b a).isLE) = true := by
  have turned : cmp b a = (cmp a b).swap := OrientedCmp.eq_swap
  rw [turned]
  cases cmp a b <;> rfl

/-- The elements that tie with one another are in order already, so merging never moves one past
another. -/
theorem filter_mergeSort_ties [TransCmp cmp] (a : α) (xs : List α) :
    ((xs.mergeSort fun b c => (cmp b c).isLE).filter fun b => cmp a b == .eq) =
      xs.filter fun b => cmp a b == .eq := by
  have tied : (xs.filter fun b => cmp a b == .eq).Pairwise fun b c => (cmp b c).isLE = true := by
    refine List.pairwise_of_forall_mem_list fun b inB c inC => ?_
    have toB : cmp a b = .eq := by simpa using (List.mem_filter.mp inB).2
    have toC : cmp a c = .eq := by simpa using (List.mem_filter.mp inC).2
    rw [TransCmp.congr_left (OrientedCmp.eq_symm toB), toC]
    rfl
  have kept := (List.sublist_mergeSort (fun b c d => TransCmp.isLE_trans) isLE_total tied
    List.filter_sublist).filter fun b => cmp a b == .eq
  rw [List.filter_filter] at kept
  simp only [Bool.and_self] at kept
  exact (kept.eq_of_length ((List.mergeSort_perm xs _).filter _).length_eq.symm).symm

theorem stableSort_mergeSort [TransCmp cmp] (xs : List α) :
    StableSort cmp xs (xs.mergeSort fun b c => (cmp b c).isLE) := by
  refine ⟨List.mergeSort_perm xs _, ?_, fun a => filter_mergeSort_ties a xs⟩
  refine (List.pairwise_mergeSort (fun b c d => TransCmp.isLE_trans) isLE_total xs).imp
    fun {b c} placed => ?_
  simpa [Ordering.isLE_iff_ne_gt] using placed

end GameShelf
