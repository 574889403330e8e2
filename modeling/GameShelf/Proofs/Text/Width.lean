import GameShelf.Text.Width

namespace GameShelf.Text

theorem toList_padLeft (width : Nat) (text : String) :
    (padLeft width text).toList =
      List.replicate (width - text.length) ' ' ++ text.toList := by
  rw [padLeft, String.toList_append, String.toList_ofList]

theorem toList_padRight (width : Nat) (text : String) :
    (padRight width text).toList =
      text.toList ++ List.replicate (width - text.length) ' ' := by
  rw [padRight, String.toList_append, String.toList_ofList]

theorem truncate_of_le {width : Nat} {text : String} (fits : text.length ≤ width) :
    truncate width text = text :=
  if_neg (Nat.not_lt.mpr fits)

theorem toList_truncate_of_lt {width : Nat} {text : String} (wide : width < text.length) :
    (truncate width text).toList = text.toList.take (width - 3) ++ ['.', '.', '.'] := by
  rw [truncate, if_pos wide, String.toList_append, String.toList_ofList]
  rfl

/-- A text that is cut has the full width, so that there is nothing left to pad. -/
theorem length_truncate_of_lt {width : Nat} {text : String} (room : 3 ≤ width)
    (wide : width < text.length) : (truncate width text).length = width := by
  rw [← String.length_toList, toList_truncate_of_lt wide, List.length_append, List.length_take,
    String.length_toList, List.length_cons, List.length_cons, List.length_cons, List.length_nil]
  omega

/-- Cut first and padded then, every text has the same width. -/
theorem length_padRight_truncate {width : Nat} (room : 3 ≤ width) (text : String) :
    (padRight width (truncate width text)).toList.length = width := by
  rw [toList_padRight, List.length_append, List.length_replicate, String.length_toList]
  by_cases fits : text.length ≤ width
  · rw [truncate_of_le fits]
    omega
  · rw [length_truncate_of_lt room (Nat.not_le.mp fits)]
    omega

section Characters

variable {c : Char} {width : Nat} {text : String}

theorem not_mem_padLeft (solid : c ≠ ' ') (absent : c ∉ text.toList) :
    c ∉ (padLeft width text).toList := by
  rw [toList_padLeft]
  exact List.not_mem_append (fun blank => solid (List.eq_of_mem_replicate blank)) absent

theorem not_mem_padRight (solid : c ≠ ' ') (absent : c ∉ text.toList) :
    c ∉ (padRight width text).toList := by
  rw [toList_padRight]
  exact List.not_mem_append absent fun blank => solid (List.eq_of_mem_replicate blank)

theorem not_mem_truncate (noDot : c ≠ '.') (absent : c ∉ text.toList) :
    c ∉ (truncate width text).toList := by
  by_cases fits : text.length ≤ width
  · rwa [truncate_of_le fits]
  · rw [toList_truncate_of_lt (Nat.not_le.mp fits)]
    refine List.not_mem_append (fun kept => absent (List.mem_of_mem_take kept)) ?_
    simpa using noDot

end Characters

end GameShelf.Text
