/-! # Paths of files

A path is a text; its components are what a file system walks through. `Path.join` and
`Path.parent?` work on the text alone, and `Path.ancestors` lists a path with all its parents,
the innermost first.
-/

namespace PipelineDepot.Files.Path

/-- One step of a path. -/
inductive Component
  /-- The root of the file system, at the head of an absolute path. -/
  | root
  /-- A leading `.`; later ones mean nothing and are left out. -/
  | current
  /-- The parent directory, `..`. -/
  | parent
  /-- An entry of the directory. -/
  | name (text : String)
  deriving DecidableEq, Repr

/-- A path that starts at the root. -/
def isAbsolute (path : String) : Bool :=
  path.toList.head? == some '/'

/-- The texts between the slashes. -/
def pieces (path : String) : List String :=
  (path.toList.splitOn '/').map String.ofList

/-- The component a piece stands for behind the first place; empty pieces and `.` stand for
none. -/
def laterComponent? (piece : String) : Option Component :=
  if piece = "" ∨ piece = "." then none
  else if piece = ".." then some .parent
  else some (.name piece)

/-- The components of a path. -/
def components (path : String) : List Component :=
  match pieces path with
  | [] => []
  | first :: rest =>
    let head : List Component :=
      if isAbsolute path then [.root]
      else if first = "." then [.current]
      else (laterComponent? first).toList
    head ++ rest.filterMap laterComponent?

/-- The path of `child` seen from `base`; an absolute child stands for itself. -/
def join (base child : String) : String :=
  if isAbsolute child ∨ base = "" then child
  else if base.toList.getLast? = some '/' then base ++ child
  else base ++ "/" ++ child

/-- Drops the pieces at the end, given last first, that stand for no component. The first piece
of a relative path stands for a component even if it is a dot. -/
def dropSilent (absolute : Bool) : List String → List String
  | [] => []
  | [first] => if first = "" ∧ !absolute then [] else [first]
  | piece :: rest =>
    if laterComponent? piece = none then dropSilent absolute rest else piece :: rest

/-- The path without its last component; none for the empty path and for the root. -/
def parent? (path : String) : Option String :=
  let absolute := isAbsolute path
  match dropSilent absolute (pieces path).reverse with
  | [] => none
  | _ :: rest =>
    match dropSilent absolute rest with
    | [] => if absolute then none else some ""
    | [only] => some (if absolute ∧ only = "" then "/" else only)
    | kept => some ("/".intercalate kept.reverse)

/-- A path with its parents, the innermost first, at most `limit` of them; the empty path and
the root are left out. -/
def ancestorsUpTo : Nat → String → List String
  | 0, _ => []
  | limit + 1, path =>
    if path = "" then []
    else match parent? path with
      | none => []
      | some parent => path :: ancestorsUpTo limit parent

/-- A path with all its parents, the innermost first. -/
def ancestors (path : String) : List String :=
  ancestorsUpTo (path.length + 1) path

end PipelineDepot.Files.Path
