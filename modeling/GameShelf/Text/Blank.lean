namespace GameShelf.Text

/-- The code points with the Unicode property White_Space. -/
def isBlank (c : Char) : Bool :=
  let n := c.toNat
  (9 ≤ n && n ≤ 13) || n = 0x20 || n = 0x85 || n = 0xa0 || n = 0x1680 ||
    (0x2000 ≤ n && n ≤ 0x200a) || n = 0x2028 || n = 0x2029 || n = 0x202f || n = 0x205f || n = 0x3000

def trimStart (cs : List Char) : List Char :=
  cs.dropWhile isBlank

def trimEnd (cs : List Char) : List Char :=
  (cs.reverse.dropWhile isBlank).reverse

/-- The characters between the first and the last that are not blank. -/
def trimmed (cs : List Char) : List Char :=
  trimEnd (trimStart cs)

/-- `text` without the white space around it. -/
def trim (text : String) : String :=
  String.ofList (trimmed text.toList)

/-- The first word of a line, up to its first blank, and the trimmed remainder. -/
def splitWord (cs : List Char) : List Char × List Char :=
  (cs.takeWhile (!isBlank ·), trimmed (cs.dropWhile (!isBlank ·)))

theorem toList_trim (text : String) : (trim text).toList = trimmed text.toList :=
  String.toList_ofList

end GameShelf.Text
