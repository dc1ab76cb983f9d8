import ConsoleLink.Text.Blank

/-! # File paths as text

A path is pieces separated by slashes. Empty pieces and pieces `.` lead nowhere, but for a `.` at
the start of a relative path, which keeps the path from being empty. The paths above a path are
beginnings of its text.
-/

namespace ConsoleLink.Path

/-- The names between the slashes that are not empty. -/
def names (path : String) : List String :=
  ((Text.splitOn (· == '/') path.toList).filter fun n => !n.isEmpty).map String.ofList

def endsInSlash (path : String) : Bool := path.toList.getLast? == some '/'

/-- What a path starts with and keeps: the slash of an absolute path, a `.` before the first slash
of a relative one. -/
def root : List Char → List Char
  | '/' :: _ => ['/']
  | ['.'] => ['.']
  | '.' :: '/' :: _ => ['.']
  | _ => []

/-- Whether a piece between slashes leads nowhere. -/
def isIdle (piece : List Char) : Bool := piece.isEmpty || piece == ['.']

/-- The path of a root and the pieces after it, the last piece first. Idle pieces at its end are
left out, those further up stay as they are. -/
def ofPieces (root : List Char) (pieces : List (List Char)) : String :=
  String.ofList (root ++ List.intercalate ['/'] (pieces.dropWhile isIdle).reverse)

/-- The paths above the one of a root and the pieces after it, the last piece first. Above a lone
`.` there is the empty path. -/
def abovePieces (root : List Char) : List (List Char) → List String
  | [] => if root = ['.'] then [""] else []
  | piece :: pieces =>
    if isIdle piece then abovePieces root pieces
    else ofPieces root pieces :: abovePieces root pieces

/-- The paths above a path, the longest first. -/
def above (path : String) : List String :=
  let cs := path.toList
  let body := cs.drop (root cs).length
  abovePieces (root cs) (Text.splitOn (· == '/') body).reverse

/-- The path without its last name; a root and an empty path have none. -/
def parent? (path : String) : Option String := (above path).head?

/-- The nonempty paths above a path, the longest first. -/
def parents (path : String) : List String := (above path).filter fun p => !p.isEmpty

/-- A name inside a directory. -/
def join (directory name : String) : String :=
  if directory.isEmpty || endsInSlash directory then directory ++ name
  else directory ++ "/" ++ name

end ConsoleLink.Path
