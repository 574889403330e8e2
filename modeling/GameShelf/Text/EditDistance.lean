namespace GameShelf.Text

/-- The row of the empty source: a suffix is as far as it is long. -/
def emptyRow : List Char → List Nat
  | [] => [0]
  | _ :: target => (target.length + 1) :: emptyRow target

/-- The row of `c :: source`, from the row of `source`. -/
def extendRow (c : Char) : List Char → List Nat → List Nat
  | [], row => [row.headD 0 + 1]
  | t :: target, row =>
    let shorter := extendRow c target row.tail
    let substituted := row.tail.headD 0 + if c = t then 0 else 1
    min (min (row.headD 0 + 1) (shorter.headD 0 + 1)) substituted :: shorter

/-- The least number of insertions, deletions and substitutions of single characters that turn one
text into the other. Its rows hold the distances of a suffix of the source to those of the
target. -/
def editDistance (source target : List Char) : Nat :=
  (source.foldr (extendRow · target) (emptyRow target)).headD 0

end GameShelf.Text
