namespace GameShelf.Text

/-- `text` moved to the right edge of a cell. -/
def padLeft (width : Nat) (text : String) : String :=
  String.ofList (List.replicate (width - text.length) ' ') ++ text

/-- `text` at the left edge of a cell. -/
def padRight (width : Nat) (text : String) : String :=
  text ++ String.ofList (List.replicate (width - text.length) ' ')

/-- `text` cut to `width` characters, the last three of which are dots if anything was lost.
Below three characters the dots alone remain. -/
def truncate (width : Nat) (text : String) : String :=
  if width < text.length then String.ofList (text.toList.take (width - 3)) ++ "..." else text

end GameShelf.Text
