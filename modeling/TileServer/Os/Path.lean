import TileServer.Text.Blank

namespace TileServer.Path

/-- A path with a leading `~` for the home directory. Only `~` alone and `~/` mean it. -/
def expandTilde (home : Option String) (path : String) : String :=
  match home, path.toList with
  | some home, ['~'] => home
  | some home, '~' :: '/' :: rest => home ++ String.ofList ('/' :: rest)
  | _, _ => path

def join (base name : String) : String :=
  match base.toList.getLast? with
  | none => name
  | some '/' => base ++ name
  | some _ => base ++ "/" ++ name

def within (directory path : String) : String :=
  match path.toList with
  | '/' :: _ => path
  | _ => join directory path

def isIdle (piece : String) : Bool := piece == "" || piece == "."

def pieces (path : String) : List String :=
  (Text.pieces (fun c => c == '/') path.toList).map String.ofList

def names (path : String) : List String :=
  (pieces path).filter (fun piece => piece != "")

def isAbsolute (path : String) : Bool :=
  path.toList.head? == some '/'

def isSlashed (path : String) : Bool :=
  path.toList.getLast? == some '/'

def trimPieces (pieces : List String) : List String :=
  (pieces.reverse.dropWhile isIdle).reverse

/-- The text of the directory that a path is in; `none` if the path has no name on it. -/
def parent? (path : String) : Option String :=
  match trimPieces (pieces path) with
  | [] => none
  | kept =>
    match trimPieces kept.dropLast with
    | [] => some (if isAbsolute path then "/" else "")
    | above => some ("/".intercalate above)

end TileServer.Path
