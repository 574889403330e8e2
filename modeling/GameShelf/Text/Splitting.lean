namespace GameShelf.Text

/-- What follows `mark` in `cs`, if `cs` begins with it. -/
def after? : List Char → List Char → Option (List Char)
  | [], cs => some cs
  | _ :: _, [] => none
  | m :: mark, c :: cs => if m = c then after? mark cs else none

/-- The parts before and after the first occurrence of `mark`. -/
def splitFirst (mark : List Char) : List Char → Option (List Char × List Char)
  | [] => (after? mark []).map ([], ·)
  | c :: cs =>
    match after? mark (c :: cs) with
    | some rest => some ([], rest)
    | none => (splitFirst mark cs).map fun parts => (c :: parts.1, parts.2)

/-- Whether `mark` occurs somewhere in `cs`. -/
def occursIn (mark cs : List Char) : Bool :=
  (splitFirst mark cs).isSome

theorem eq_append_of_after? {mark cs rest : List Char} (found : after? mark cs = some rest) :
    cs = mark ++ rest := by
  induction mark generalizing cs with
  | nil => simpa [after?] using found
  | cons m mark ih =>
    cases cs with
    | nil => simp [after?] at found
    | cons c cs =>
      by_cases same : m = c
      · simp only [after?, same, if_true] at found
        rw [ih found, same, List.cons_append]
      · simp [after?, same] at found

theorem after?_append (mark rest : List Char) : after? mark (mark ++ rest) = some rest := by
  induction mark with
  | nil => rfl
  | cons m mark ih => simpa [after?] using ih

end GameShelf.Text
