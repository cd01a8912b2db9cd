/-! # Key paths

A key is a slash-separated path. `KeyPath.clean` brings a path to the form in which it has no
empty segment, no `.` and no `..` that a name before it could take back; `KeyPath.join` puts
paths behind each other and cleans the result. Both look at the text alone.
-/

namespace PipelineDepot.KeyPath

/-- What stands between two slashes. -/
abbrev Segment := List Char

/-- The segment that stays where it is. -/
def here : Segment := ['.']

/-- The segment that goes to the parent. -/
def up : Segment := ['.', '.']

/-- The segments of a path, empty ones included. -/
def segments (path : List Char) : List Segment :=
  path.splitOn '/'

/-- Takes a segment onto the stack of segments kept so far, the innermost first. A parent
reference takes back the name before it; without one it is dropped at the root and kept
otherwise. -/
def push (rooted : Bool) (kept : List Segment) (segment : Segment) : List Segment :=
  if segment = [] ∨ segment = here then kept
  else if segment = up then
    match kept with
    | [] => if rooted then [] else [up]
    | top :: below => if top = up then up :: top :: below else below
  else segment :: kept

/-- A path that starts at the root. -/
def isRooted (path : List Char) : Bool :=
  path.head? == some '/'

/-- The segments a path keeps, the outermost first. -/
def keptSegments (path : List Char) : List Segment :=
  ((segments path).foldl (push (isRooted path)) []).reverse

/-- The path with the given segments; without any it is the root or the current place. -/
def render (rooted : Bool) (kept : List Segment) : List Char :=
  if rooted then '/' :: ['/'].intercalate kept
  else if kept = [] then here
  else ['/'].intercalate kept

/-- The cleaned path, as characters. -/
def cleanChars (path : List Char) : List Char :=
  render (isRooted path) (keptSegments path)

/-- The shortest spelling of a path that means the same without looking at any directory. -/
def clean (path : String) : String :=
  String.ofList (cleanChars path.toList)

/-- Puts the non-empty elements behind each other, with a slash between them, and cleans the
result; without such an element it is empty. -/
def join (elements : List String) : String :=
  match (elements.map String.toList).filter (· ≠ []) with
  | [] => ""
  | parts => String.ofList (cleanChars (['/'].intercalate parts))

end PipelineDepot.KeyPath
