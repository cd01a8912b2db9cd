import PipelineDepot.Toml.Statement

/-! # Tables of TOML documents

The statements of a document make a tree of tables. A table is made by its header, by the header or
the key of something inside it, or between braces, and each way has its own rule on what may be
added later: no table is made twice, and none between braces is added to.

`document?` gives the data of a document, with the entries of each table in the order of their
names.
-/

namespace PipelineDepot.Toml

/-- How a table came to be. -/
inductive Origin
  /-- By a header of its own. -/
  | header
  /-- By a header of something inside it. -/
  | inner
  /-- By a key with dots. -/
  | dotted
  deriving DecidableEq, Repr

/-- What stands under a name. -/
inductive Node
  | value (datum : Datum)
  | table (origin : Origin) (entries : List (String × Node))
  /-- The tables of a list, the last one first. -/
  | tables (last : List (String × Node)) (others : List (List (String × Node)))

/-- The entries of a table, in the order of their names. -/
abbrev Entries := List (String × Node)

/-- Sets what stands under a name. -/
def setEntry (name : String) (node : Node) : Entries → Entries
  | [] => [(name, node)]
  | (other, kept) :: rest =>
    if name = other then (name, node) :: rest
    else if name < other then (name, node) :: (other, kept) :: rest
    else (other, kept) :: setEntry name node rest

/-- A change of a table, where its rules allow it. -/
abbrev Change := Origin → Entries → Option (Origin × Entries)

/-- Changes the table that a path leads to. Tables that are missing on the way are made; a key with
dots makes dotted ones and does not lead into a table with a header. -/
def changeAt (dotted : Bool) (change : Change) : KeyPath → Change
  | [], origin, entries => change origin entries
  | name :: path, origin, entries =>
    let inside := changeAt dotted change path
    match entries.lookup name with
    | none => do
      let (made, inner) ← inside (if dotted then .dotted else .inner) []
      return (origin, setEntry name (.table made inner) entries)
    | some (.value _) => none
    | some (.table made inner) =>
      if dotted ∧ made = .header then none
      else do
        let (made, inner) ← inside made inner
        return (origin, setEntry name (.table made inner) entries)
    | some (.tables last others) => do
      let (_, last) ← inside .header last
      return (origin, setEntry name (.tables last others) entries)

/-- Puts an entry into a table; a name with dots goes into dotted tables only. -/
def addEntry (name : String) (node : Node) (viaDots : Bool) : Change := fun origin entries =>
  if (origin = .dotted) ≠ viaDots ∨ (entries.lookup name).isSome then none
  else some (origin, setEntry name node entries)

/-- Makes the table of a header. -/
def addTable (name : String) : Change := fun origin entries =>
  match entries.lookup name with
  | none => some (origin, setEntry name (.table .header []) entries)
  | some (.table .inner inner) => some (origin, setEntry name (.table .header inner) entries)
  | some _ => none

/-- Puts one more table into a list. -/
def addListTable (name : String) : Change := fun origin entries =>
  match entries.lookup name with
  | none => some (origin, setEntry name (.tables [] []) entries)
  | some (.tables last others) => some (origin, setEntry name (.tables [] (last :: others)) entries)
  | some _ => none

mutual

/-- The data of what stands under a name. -/
def Node.datum : Node → Datum
  | .value datum => datum
  | .table _ entries => .map (entriesData entries)
  | .tables last others => .list ((tablesData others).reverse ++ [.map (entriesData last)])

/-- The data of the entries of a table. -/
def entriesData : Entries → List (Datum × Datum)
  | [] => []
  | (name, node) :: rest => (.text name, node.datum) :: entriesData rest

/-- The data of tables. -/
def tablesData : List Entries → List Datum
  | [] => []
  | entries :: rest => .map (entriesData entries) :: tablesData rest

end

/-- Adds an entry under a key. -/
def addAt (path : KeyPath) (node : Node) : Change := fun origin entries =>
  match path.getLast? with
  | none => none
  | some name =>
    let lead := path.dropLast
    changeAt true (addEntry name node !lead.isEmpty) lead origin entries

mutual

/-- The data of a value as it is written. -/
def Written.datum? : Written → Option Datum
  | .scalar datum => some datum
  | .list items => (itemsData? items).map .list
  | .table entries => (writtenEntries? entries []).map fun entries => .map (entriesData entries)

/-- The data of the items of a list. -/
def itemsData? : List Written → Option (List Datum)
  | [] => some []
  | item :: rest => do
    let datum ← item.datum?
    let later ← itemsData? rest
    return datum :: later

/-- The entries between braces, on top of those before them. -/
def writtenEntries? : List (KeyPath × Written) → Entries → Option Entries
  | [], entries => some entries
  | (path, value) :: rest, entries => do
    let datum ← value.datum?
    let (_, entries) ← addAt path (.value datum) .header entries
    writtenEntries? rest entries

end

/-- The tables made so far, and the path of the header in force. -/
structure Draft where
  entries : Entries := []
  place : KeyPath := []

namespace Draft

/-- Makes a change at a path of headers. -/
def change (draft : Draft) (path : KeyPath) (change : Change) : Option Entries :=
  (changeAt false change path .header draft.entries).map (·.2)

/-- Follows a statement. -/
def follow (draft : Draft) : Statement → Option Draft
  | .entry path value => do
    let datum ← value.datum?
    let entries ← draft.change draft.place (addAt path (.value datum))
    return { draft with entries }
  | .header path => do
    let name ← path.getLast?
    let entries ← draft.change path.dropLast (addTable name)
    return { entries, place := path }
  | .listHeader path => do
    let name ← path.getLast?
    let entries ← draft.change path.dropLast (addListTable name)
    return { entries, place := path }

end Draft

/-- The data of a document. -/
def document? (text : String) : Option Datum := do
  let statements ← Statement.readAll? text.toList
  let draft ← statements.foldlM Draft.follow {}
  return .map (entriesData draft.entries)

end PipelineDepot.Toml
