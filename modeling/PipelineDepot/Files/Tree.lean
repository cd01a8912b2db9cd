import PipelineDepot.Files.Disk
import PipelineDepot.Files.Path

/-! # Trees of files

A file system without links, as a value: directories with named entries, and the directory that
relative paths start from. The calls of a disk are functions on it, and each fails for the
reasons that the structure of the tree gives.

`Node.find?` is the view through which a tree is described: what stands at a place, a place
being the list of names that leads there from the top.
-/

namespace PipelineDepot.Files

/-- A file or a directory. -/
inductive Node
  | file (content : Bytes)
  | dir (entries : List (String × Node))

/-- The names that lead to a node, the outermost first. -/
abbrev Place := List String

namespace Node

/-- The empty directory. -/
def empty : Node := dir []

/-- The node is a directory. -/
def isDir : Node → Bool
  | file _ => false
  | dir _ => true

/-- The node at a place. -/
def find? : Node → Place → Option Node
  | node, [] => some node
  | file _, _ :: _ => none
  | dir entries, name :: rest =>
    match entries.lookup name with
    | none => none
    | some node => node.find? rest

/-- The entries with `node` under `name`, in the order of the names. -/
def insertEntry (name : String) (node : Node) : List (String × Node) → List (String × Node)
  | [] => [(name, node)]
  | (other, kept) :: rest =>
    if name = other then (name, node) :: rest
    else if name < other then (name, node) :: (other, kept) :: rest
    else (other, kept) :: insertEntry name node rest

/-- Puts a node at a place whose parent is a directory; any other place changes nothing. -/
def insert : Node → Place → Node → Node
  | node, [], _ => node
  | file content, _ :: _, _ => file content
  | dir entries, [name], new => dir (insertEntry name new entries)
  | dir entries, name :: rest, new =>
    match entries.lookup name with
    | none => dir entries
    | some node => dir (insertEntry name (node.insert rest new) entries)

/-- Takes away the node at a place. -/
def erase : Node → Place → Node
  | node, [] => node
  | file content, _ :: _ => file content
  | dir entries, [name] => dir (entries.filter (·.1 ≠ name))
  | dir entries, name :: rest =>
    match entries.lookup name with
    | none => dir entries
    | some node => dir (insertEntry name (erase node rest) entries)

end Node

/-- A file system: its top directory, and the place that relative paths start from. -/
structure FileSystem where
  top : Node
  start : Place

namespace FileSystem

/-- The longest name, in bytes. -/
def maxName : Nat := 255

/-- The length from which a whole path is too long, in bytes. -/
def pathLimit : Nat := 4096

/-- What the last component of a path asks for. -/
inductive Goal
  /-- A directory that the walk has already reached. -/
  | reached (place : Place)
  /-- An entry of the directory at `parent`. -/
  | entry (parent : Place) (name : String)

/-- The pieces of a path that a walk looks at. -/
def walkPieces (path : String) : List String :=
  (Path.pieces path).filter (· ≠ "")

/-- The path ends in a slash, and so asks for a directory. -/
def endsInSlash (path : String) : Bool :=
  path.toList.getLast? == some '/'

/-- Enters one piece from a directory. -/
def enter (top : Node) (place : Place) (piece : String) : Except FileError Place :=
  if piece = "." then .ok place
  else if piece = ".." then .ok place.dropLast
  else if maxName < piece.utf8ByteSize then .error .nameTooLong
  else match top.find? (place ++ [piece]) with
    | none => .error .notFound
    | some (.file _) => .error .notADirectory
    | some (.dir _) => .ok (place ++ [piece])

/-- Walks through all pieces but the last and says what the last one asks for. -/
def walk (top : Node) (place : Place) : List String → Except FileError Goal
  | [] => .ok (.reached place)
  | [last] =>
    if last = "." then .ok (.reached place)
    else if last = ".." then .ok (.reached place.dropLast)
    else .ok (.entry place last)
  | piece :: rest =>
    match enter top place piece with
    | .error cause => .error cause
    | .ok next => walk top next rest

/-- What a path asks for in this file system. -/
def goal (system : FileSystem) (path : String) : Except FileError Goal :=
  if path.toList.contains '\x00' then .error .nulInPath
  else if path = "" then .error .notFound
  else if pathLimit ≤ path.utf8ByteSize then .error .nameTooLong
  else
    let place := if Path.isAbsolute path then [] else system.start
    walk system.top place (walkPieces path)

/-- The node that a goal names. -/
def nodeAt (system : FileSystem) : Goal → Except FileError Node
  | .reached place =>
    match system.top.find? place with
    | none => .error .notFound
    | some node => .ok node
  | .entry parent name =>
    if maxName < name.utf8ByteSize then .error .nameTooLong
    else match system.top.find? (parent ++ [name]) with
      | none => .error .notFound
      | some node => .ok node

/-- The node at a path. A file behind which a slash stands is none. -/
def node (system : FileSystem) (path : String) : Except FileError Node := do
  let found ← system.nodeAt (← system.goal path)
  if endsInSlash path && !found.isDir then .error .notADirectory else .ok found

/-- A directory stands at the path. -/
def isDir (system : FileSystem) (path : String) : Bool :=
  match system.node path with
  | .ok found => found.isDir
  | .error _ => false

/-- Opens what stands at a path. -/
def openPath (system : FileSystem) (path : String) : Except FileError Opened :=
  match system.node path with
  | .error cause => .error cause
  | .ok (.file content) => .ok (.file content)
  | .ok (.dir _) => .ok .directory

/-- Makes one directory. -/
def makeDir (system : FileSystem) (path : String) : Except FileError FileSystem := do
  match ← system.goal path with
  | .reached _ => .error .alreadyExists
  | .entry parent name =>
    if maxName < name.utf8ByteSize then .error .nameTooLong
    else match system.top.find? (parent ++ [name]) with
      | some _ => .error .alreadyExists
      | none => .ok { system with top := system.top.insert (parent ++ [name]) .empty }

/-- Goes through a path and its parents, the innermost first, and makes the first directory
whose parent stands. The paths before it, the outermost first, are still to be made. -/
def makeFirst (system : FileSystem) (missing : List String) :
    List String → Except FileError (FileSystem × List String)
  | [] => .ok (system, missing)
  | path :: parents =>
    match system.makeDir path with
    | .ok next => .ok (next, missing)
    | .error .notFound => makeFirst system (path :: missing) parents
    | .error cause =>
      if cause = .alreadyExists ∧ system.isDir path then .ok (system, missing) else .error cause

/-- Makes directories one after the other. The file system is what is left when one of them
cannot be made. -/
def makeEach (system : FileSystem) : List String → Except FileError Unit × FileSystem
  | [] => (.ok (), system)
  | path :: rest =>
    match system.makeDir path with
    | .ok next => next.makeEach rest
    | .error cause =>
      if cause = .alreadyExists ∧ system.isDir path then system.makeEach rest
      else (.error cause, system)

/-- Makes a directory and the parents it lacks. -/
def makeDirs (system : FileSystem) (path : String) : Except FileError Unit × FileSystem :=
  match system.makeFirst [] (Path.ancestors path) with
  | .error cause => (.error cause, system)
  | .ok (next, missing) => next.makeEach missing

/-- Gives the file at a path new content and makes the file where there is none. -/
def write (system : FileSystem) (path : String) (content : Bytes) :
    Except FileError FileSystem := do
  match ← system.goal path with
  | .reached _ => .error .isADirectory
  | .entry parent name =>
    if endsInSlash path then .error .isADirectory
    else if maxName < name.utf8ByteSize then .error .nameTooLong
    else match system.top.find? (parent ++ [name]) with
      | some (.dir _) => .error .isADirectory
      | _ => .ok { system with top := system.top.insert (parent ++ [name]) (.file content) }

/-- Removes the file at a path. -/
def remove (system : FileSystem) (path : String) : Except FileError FileSystem := do
  match ← system.goal path with
  | .reached _ => .error .isADirectory
  | .entry parent name =>
    if maxName < name.utf8ByteSize then .error .nameTooLong
    else match system.top.find? (parent ++ [name]) with
      | none => .error .notFound
      | some (.dir _) => .error .isADirectory
      | some (.file _) =>
        if endsInSlash path then .error .notADirectory
        else .ok { system with top := system.top.erase (parent ++ [name]) }

/-- Keeps the file system where a call fails. -/
def settle (system : FileSystem) :
    Except FileError FileSystem → Except FileError Unit × FileSystem
  | .error cause => (.error cause, system)
  | .ok next => (.ok (), next)

/-- The file system as a disk. -/
def disk : Disk (StateM FileSystem) where
  makeDirs path := fun system => system.makeDirs path
  openPath path := fun system => (system.openPath path, system)
  write path content := fun system => system.settle (system.write path content)
  remove path := fun system => system.settle (system.remove path)

end FileSystem

end PipelineDepot.Files
