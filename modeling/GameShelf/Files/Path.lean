namespace GameShelf.Path

/-- The components between the slashes. Empty ones do not count. -/
def components (path : String) : List String :=
  ((path.toList.splitOn '/').filter (!·.isEmpty)).map String.ofList

def isAbsolute (path : String) : Bool :=
  path.toList.head? = some '/'

def endsInSlash (path : String) : Bool :=
  path.toList.getLast? = some '/'

/-- `name` inside the directory `path`. An absolute name stands for itself. -/
def join (path name : String) : String :=
  if isAbsolute name || path.isEmpty then name
  else if endsInSlash path then path ++ name
  else path ++ "/" ++ name

/-- The slash or the dot that a path begins with, which its parents keep, and the rest of it. -/
def splitStart (path : List Char) : List Char × List Char :=
  match path with
  | '/' :: rest => (['/'], rest)
  | ['.'] => (['.'], [])
  | '.' :: '/' :: rest => (['.'], '/' :: rest)
  | path => ([], path)

/-- Whether what stands between two slashes leads nowhere. -/
def isIdle (segment : List Char) : Bool :=
  segment.isEmpty || segment = ['.']

/-- The parents of a path, the nearest first, from its segments, the last first. Idle segments at
the end of a path do not count, and the parent of a lone dot is the empty path. -/
def parentsFrom (start : List Char) : List (List Char) → List String
  | [] => if start = ['.'] then [""] else []
  | segment :: above =>
    if isIdle segment then parentsFrom start above
    else
      let kept := (above.dropWhile isIdle).reverse
      String.ofList (start ++ ['/'].intercalate kept) :: parentsFrom start above

/-- The directories that a path leads through, the nearest first. The root and the empty path have
none above them. -/
def parents (path : String) : List String :=
  let (start, rest) := splitStart path.toList
  parentsFrom start (rest.splitOn '/').reverse

end GameShelf.Path
