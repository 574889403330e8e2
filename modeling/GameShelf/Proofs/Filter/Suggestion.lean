import Mathlib.Data.List.MinMax
import GameShelf.Proofs.Filter.Grammar
import GameShelf.Proofs.Text.EditDistance

namespace GameShelf

namespace Column

/-- So many edits turn a text into the title of the column, both in lower case. -/
def Reaches (text : String) (column : Column) (n : Nat) : Prop :=
  Text.Edits n (Text.lowered text.toList) (Text.lowered column.title.toList)

/-- So many edits lead to the column, and to no column before it in the catalog. -/
def IsFirstAt (text : String) (n : Nat) (column : Column) : Prop :=
  Reaches text column n ∧ ∀ other, Reaches text other n → all.idxOf column ≤ all.idxOf other

variable {text : String} {column : Column} {n : Nat}

theorem reaches_distance (text : String) (column : Column) :
    Reaches text column (distance text column) :=
  (Text.isLeast_editDistance _ _).1

theorem Reaches.distance_le (reaches : Reaches text column n) : distance text column ≤ n :=
  (Text.isLeast_editDistance _ _).2 reaches

/-- Going through a list and keeping the better of two, the earlier if they are alike, ends with the
first of the best. -/
theorem argmin_cons_eq_foldl {α : Type} (f : α → Nat) (first : α) (row : List α) :
    (first :: row).argmin f =
      some (row.foldl (fun best one => if f one < f best then one else best) first) := by
  induction row using List.reverseRecOn with
  | nil => rfl
  | append_singleton row last ih =>
    rw [← List.cons_append, List.argmin_concat, ih, List.foldl_append]
    exact (apply_ite some _ _ _).symm

/-- The search begins with the first column, which it then compares with itself. -/
theorem nearest_mem_argmin (text : String) : nearest text ∈ all.argmin (distance text) := by
  have whole : all = name :: all.tail := rfl
  rw [nearest, whole, List.foldl_cons, ite_self]
  exact argmin_cons_eq_foldl (distance text) name all.tail

/-- The distance of the nearest column is the least number of edits that lead to any column. -/
theorem isLeast_nearest (text : String) :
    IsLeast {n | ∃ column, Reaches text column n} (distance text (nearest text)) := by
  refine ⟨⟨_, reaches_distance text _⟩, ?_⟩
  rintro n ⟨column, reaches⟩
  have nearer := List.le_of_mem_argmin column.mem_all (nearest_mem_argmin text)
  exact nearer.trans reaches.distance_le

theorem isFirstAt_nearest (text : String) :
    IsFirstAt text (distance text (nearest text)) (nearest text) := by
  refine ⟨reaches_distance text _, fun other reaches => ?_⟩
  exact List.index_of_argmin (nearest_mem_argmin text) other.mem_all reaches.distance_le

theorem suggest?_eq (text : String) :
    suggest? text =
      if 1 ≤ distance text (nearest text) ∧ distance text (nearest text) ≤ 3 then
        some (nearest text)
      else none := by
  simp only [suggest?, Bool.and_eq_true, decide_eq_true_eq, Nat.lt_iff_add_one_le, Nat.zero_add]

theorem reaches_zero_iff :
    Reaches text column 0 ↔ Text.lower text = Text.lower column.title := by
  rw [Reaches, Text.edits_zero_iff, ← Text.toList_lower, ← Text.toList_lower, String.toList_inj]

theorem distance_nearest_eq_zero_iff :
    distance text (nearest text) = 0 ↔
      ∃ column : Column, Text.lower text = Text.lower column.title := by
  constructor
  · intro zero
    have reaches := reaches_distance text (nearest text)
    rw [zero] at reaches
    exact ⟨nearest text, reaches_zero_iff.mp reaches⟩
  · rintro ⟨column, same⟩
    exact Nat.le_zero.mp ((isLeast_nearest text).2 ⟨column, reaches_zero_iff.mpr same⟩)

end Column

namespace Clause
open Column

/-- What is suggested for an unknown title depends on the least number of edits that lead to a
column: if it is one, two or three, the first column at which they arrive, and otherwise none. It is
zero just for a title that in lower case is that of a column; and as it is unknown, it differs from
all of them by more than the case of the letters A to Z. -/
theorem suggestion_is_first_nearest {text title : String} {suggestion : Option Column}
    (unknown : parse text = .error (.unknownColumn title suggestion)) :
    ∃ d, IsLeast {n | ∃ column, Reaches title column n} d ∧
      (suggestion.isSome ↔ 1 ≤ d ∧ d ≤ 3) ∧
      (∀ column ∈ suggestion, IsFirstAt title d column) ∧
      (d = 0 ↔ ∃ column : Column, Text.lower title = Text.lower column.title) ∧
      ∀ column : Column, Text.sameIgnoringAsciiCase column.title title = false := by
  cases parse_eq_iff_reads.mp unknown with
  | unknownColumn leads divides titled filled different =>
    refine ⟨_, isLeast_nearest title, ?_, ?_, distance_nearest_eq_zero_iff, different⟩
    · rw [suggest?_eq]
      split <;> simp_all
    · intro column suggested
      rw [suggest?_eq] at suggested
      split at suggested
      · cases suggested
        exact isFirstAt_nearest title
      · cases suggested

/-- Two edits lead to the least and to the greatest time, and the least time comes first. A title
with the Kelvin sign is that of a column in lower case, and unknown without a suggestion. -/
theorem suggestion_is_first_nearest_of_time :
    parse "mTime > 30" = .error (.unknownColumn "mTime" (some .minTime)) ∧
      IsLeast {n | ∃ column, Reaches "mTime" column n} 2 ∧
      IsFirstAt "mTime" 2 .minTime ∧ Reaches "mTime" .maxTime 2 ∧
      parse "ran\u212a > 3" = .error (.unknownColumn "ran\u212a" none) ∧
      IsLeast {n | ∃ column, Reaches "ran\u212a" column n} 0 := by
  have time : parse "mTime > 30" = .error (.unknownColumn "mTime" (some .minTime)) := by
    decide +kernel
  have kelvin : parse "ran\u212a > 3" = .error (.unknownColumn "ran\u212a" none) := by
    decide +kernel
  have two : distance "mTime" (nearest "mTime") = 2 := by
    decide +kernel
  have apart : distance "mTime" .maxTime = 2 := by
    decide +kernel
  have sameTitle : Text.lower "ran\u212a" = Text.lower Column.rank.title := by
    decide +kernel
  obtain ⟨d, least, -, first, -⟩ := suggestion_is_first_nearest time
  obtain ⟨e, leastKelvin, -, -, zero, -⟩ := suggestion_is_first_nearest kelvin
  obtain rfl : d = 2 := least.unique (two ▸ isLeast_nearest "mTime")
  obtain rfl : e = 0 := zero.mpr ⟨.rank, sameTitle⟩
  exact ⟨time, least, first _ rfl, apart ▸ reaches_distance "mTime" .maxTime, kelvin, leastKelvin⟩

end Clause

end GameShelf
