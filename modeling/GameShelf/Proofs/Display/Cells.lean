import GameShelf.Display.Games
import GameShelf.Proofs.Text.Digits
import GameShelf.Proofs.Text.Occurrence
import GameShelf.Proofs.Text.Width

namespace GameShelf.Display

/-- The characters of numbers, ranges and scores. -/
def isFigure (c : Char) : Bool :=
  c.isDigit || ['-', '.', 'i', 'n', 'f'].contains c

/-- A filled text of such characters. -/
def IsFigures (text : String) : Prop :=
  text ≠ "" ∧ ∀ c ∈ text.toList, isFigure c

/-- The filled parts of a text between its spaces. -/
def cellsOf (cs : List Char) : List (List Char) :=
  (cs.splitOn ' ').filter (!·.isEmpty)

section Figures

variable {text front back : String} {mark : Char}

theorem IsFigures.append (first : IsFigures front) (last : IsFigures back) :
    IsFigures (front ++ back) := by
  refine ⟨fun empty => first.1 (String.append_eq_empty_iff.mp empty).1, ?_⟩
  rw [String.toList_append]
  exact List.forall_mem_append.mpr ⟨first.2, last.2⟩

theorem IsFigures.not_mem (figures : IsFigures text) (other : isFigure mark = false) :
    mark ∉ text.toList := by
  intro member
  rw [figures.2 mark member] at other
  cases other

theorem isFigures_nat (n : Nat) : IsFigures (toString n) := by
  constructor
  · rw [Ne, ← String.toList_eq_nil_iff, toList_toString]
    exact Nat.toDigits_ne_nil
  · intro c member
    rw [toList_toString] at member
    rw [isFigure, toDigits_all n c member, Bool.true_or]

theorem isFigures_of_all (filled : text ≠ "") (all : text.toList.all isFigure) : IsFigures text :=
  ⟨filled, List.all_eq_true.mp all⟩

theorem isFigures_dash : IsFigures "-" :=
  isFigures_of_all (by decide) (by decide)

theorem isFigures_int (n : Int) : IsFigures (toString n) := by
  cases n with
  | ofNat n => exact isFigures_nat n
  | negSucc n => exact isFigures_dash.append (isFigures_nat (n + 1))

theorem isFigures_tenths (x : Binary64) : IsFigures x.tenths := by
  have point : IsFigures "." := isFigures_of_all (by decide) (by decide)
  rw [Binary64.tenths]
  split
  · exact ((isFigures_dash.append (isFigures_nat _)).append point).append (isFigures_nat _)
  · rw [String.empty_append]
    exact ((isFigures_nat _).append point).append (isFigures_nat _)

theorem isFigures_score (x : Binary64) : IsFigures (Cell.score x) := by
  rw [Cell.score]
  split
  · exact isFigures_dash
  split
  · exact isFigures_tenths x
  split <;> exact isFigures_of_all (by decide) (by decide)

theorem isFigures_range (least most : UInt32) : IsFigures (Cell.range least most) := by
  rw [Cell.range]
  split
  · exact isFigures_nat _
  · exact ((isFigures_nat _).append isFigures_dash).append (isFigures_nat _)

end Figures

section Cells

variable {text : String}

theorem cellsOf_append_space (front back : List Char) :
    cellsOf (front ++ ' ' :: back) = cellsOf front ++ cellsOf back := by
  rw [cellsOf, List.splitOn_append_cons_self, List.filter_append, cellsOf, cellsOf]

theorem cellsOf_append_space_append (front back : String) :
    cellsOf (front ++ " " ++ back).toList = cellsOf front.toList ++ cellsOf back.toList := by
  rw [String.toList_append, String.toList_append, List.append_assoc]
  exact cellsOf_append_space front.toList back.toList

theorem cellsOf_blanks_append (n : Nat) (cs : List Char) :
    cellsOf (List.replicate n ' ' ++ cs) = cellsOf cs := by
  induction n with
  | zero => rfl
  | succ n ih =>
    rw [List.replicate_succ, List.cons_append]
    exact (cellsOf_append_space [] _).trans ih

theorem IsFigures.cellsOf_eq (figures : IsFigures text) : cellsOf text.toList = [text.toList] := by
  have filled : text.toList ≠ [] := by
    rw [Ne, String.toList_eq_nil_iff]
    exact figures.1
  have whole : text.toList.splitOn ' ' = [text.toList] :=
    List.splitOn_eq_singleton (figures.not_mem (by decide))
  rw [cellsOf, whole, List.filter_cons_of_pos (by simpa using filled), List.filter_nil]

/-- Padding is no part of a cell. -/
theorem IsFigures.cellsOf_padLeft (figures : IsFigures text) (width : Nat) :
    cellsOf (Text.padLeft width text).toList = [text.toList] := by
  rw [Text.toList_padLeft, cellsOf_blanks_append, figures.cellsOf_eq]

end Cells

/-- A row has no character that is neither a space nor in one of its cells. -/
theorem not_mem_row {mark : Char} {index name players time difficulty rating rank year : String}
    (solid : mark ≠ ' ')
    (clear : ∀ cell ∈ [index, name, players, time, difficulty, rating, rank, year],
      mark ∉ cell.toList) :
    mark ∉ (row index name players time difficulty rating rank year).toList := by
  have space : mark ∉ " ".toList ∧ mark ∉ "  ".toList := by
    simp [solid]
  have padded {cell : String} (clear : mark ∉ cell.toList) (width : Nat) :
      mark ∉ (Text.padLeft width cell).toList :=
    Text.not_mem_padLeft solid clear
  simp only [List.forall_mem_cons] at clear
  obtain ⟨index, name, players, time, difficulty, rating, rank, year, -⟩ := clear
  -- `delta`, because the equation of `row` takes long to derive
  delta row
  simp only [String.toList_append, List.mem_append, not_or, and_assoc]
  exact ⟨index, space.2, name, space.1, padded players 7, space.1, padded time 9, space.1,
    padded difficulty 6, space.1, rating, space.1, padded rank 6, space.1, padded year 6⟩

/-- The number that a cell shows. -/
def natOf? (cell : List Char) : Option Nat :=
  if isDigits cell then some (digitsValue cell) else none

/-- The number that a cell shows, negative behind a dash. -/
def intOf? : List Char → Option Int
  | '-' :: digits => (natOf? digits).map fun n : Nat => -(n : Int)
  | digits => (natOf? digits).map Int.ofNat

/-- The ends of the range that a cell shows. A single number is both. -/
def boundsOf? (cell : List Char) : Option (Nat × Nat) :=
  match Text.splitFirst ['-'] cell with
  | some (least, most) => do some (← natOf? least, ← natOf? most)
  | none => (natOf? cell).map fun n => (n, n)

theorem natOf?_toDigits (n : Nat) : natOf? (Nat.toDigits 10 n) = some n := by
  rw [natOf?, if_pos (isDigits_toDigits n), digitsValue_toDigits]

theorem natOf?_toString (n : Nat) : natOf? (toString n).toList = some n := by
  rw [toList_toString, natOf?_toDigits]

theorem intOf?_of_isDigits {digits : List Char} (row : isDigits digits) :
    intOf? digits = (natOf? digits).map Int.ofNat := by
  unfold intOf?
  split
  · exact absurd List.mem_cons_self (dash_not_mem_of_isDigits row)
  · rfl

theorem intOf?_toString (n : Int) : intOf? (toString n).toList = some n := by
  cases n with
  | ofNat n =>
    have digits : (toString (Int.ofNat n)).toList = Nat.toDigits 10 n := toList_toString n
    rw [digits, intOf?_of_isDigits (isDigits_toDigits n), natOf?_toDigits, Option.map_some]
  | negSucc n =>
    have digits : (toString (Int.negSucc n)).toList = '-' :: Nat.toDigits 10 (n + 1) := by
      rw [← toList_toString]
      exact String.toList_append
    rw [digits, intOf?, natOf?_toDigits, Option.map_some]
    rfl

theorem boundsOf?_range (least most : UInt32) :
    boundsOf? (Cell.range least most).toList = some (least.toNat, most.toNat) := by
  have noDash : '-' ∉ Nat.toDigits 10 least.toNat :=
    dash_not_mem_of_isDigits (isDigits_toDigits least.toNat)
  rw [Cell.range]
  split
  · rename_i same
    -- without a dash in it the cell is the one number
    have unsplit : Text.splitFirst ['-'] (Nat.toDigits 10 least.toNat) = none := by
      rw [← Option.not_isSome_iff_eq_none, ← Text.occursIn, Text.occursIn_iff_infix]
      exact fun dash => noDash (dash.subset List.mem_cons_self)
    rw [toList_toString, boundsOf?, unsplit, natOf?_toDigits, ← same]
    rfl
  · have parts : Text.splitFirst ['-']
          (Nat.toDigits 10 least.toNat ++ '-' :: Nat.toDigits 10 most.toNat) =
        some (Nat.toDigits 10 least.toNat, Nat.toDigits 10 most.toNat) := by
      rw [List.append_cons]
      exact Text.splitFirst_of_not_mem _ noDash
    simp only [toList_dashed, boundsOf?, parts, natOf?_toDigits, Option.bind_eq_bind,
      Option.bind_some]

end GameShelf.Display
