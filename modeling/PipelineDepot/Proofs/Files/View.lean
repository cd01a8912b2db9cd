import Mathlib.Data.List.Basic
import PipelineDepot.Files.Tree
import PipelineDepot.Proofs.Association

/-! # The view of a tree

A tree is seen through what stands at each place: nothing, a directory, or a file with its
content (`Node.look`). Putting a file or an empty directory in place, and taking a file away,
change the view at that one place (`Node.look_insert`, `Node.look_erase`).

A file system is sound when relative paths start from a directory.
-/

namespace PipelineDepot.Files

namespace Node

/-- What opening a node finds. -/
def opened : Node → Opened
  | file content => .file content
  | dir _ => .directory

/-- What stands at a place. -/
def look (node : Node) (place : Place) : Option Opened :=
  (node.find? place).map opened

theorem find?_nil (node : Node) : node.find? [] = some node := by
  cases node <;> rfl

theorem find?_dir_cons (entries : List (String × Node)) (name : String) (rest : Place) :
    (dir entries).find? (name :: rest) = (entries.lookup name).bind (·.find? rest) := by
  rw [find?]
  cases entries.lookup name <;> rfl

@[simp]
theorem look_nil (node : Node) : node.look [] = some node.opened := by
  simp only [look, find?_nil, Option.map_some]

@[simp]
theorem look_file_cons (content : Bytes) (name : String) (rest : Place) :
    (file content).look (name :: rest) = none :=
  rfl

theorem look_dir_cons (entries : List (String × Node)) (name : String) (rest : Place) :
    (dir entries).look (name :: rest) = (entries.lookup name).bind (·.look rest) := by
  simp only [look, find?_dir_cons, Option.map_bind]
  rfl

theorem look_empty_cons (name : String) (rest : Place) : empty.look (name :: rest) = none := rfl

theorem find?_eq_none_iff (node : Node) (place : Place) :
    node.find? place = none ↔ node.look place = none := by
  simp only [look, Option.map_eq_none_iff]

theorem find?_eq_file_iff (node : Node) (place : Place) (content : Bytes) :
    node.find? place = some (file content) ↔ node.look place = some (.file content) := by
  cases found : node.find? place with
  | none => simp only [look, found, Option.map_none, reduceCtorEq]
  | some node =>
      cases node with
      | file kept => simp only [look, found, Option.map_some, opened, Option.some.injEq,
          file.injEq, Opened.file.injEq]
      | dir entries => simp only [look, found, Option.map_some, opened, Option.some.injEq,
          reduceCtorEq]

theorem look_eq_directory_iff (node : Node) (place : Place) :
    node.look place = some .directory ↔ ∃ entries, node.find? place = some (dir entries) := by
  cases found : node.find? place with
  | none => simp only [look, found, Option.map_none, reduceCtorEq, exists_false]
  | some node =>
      cases node with
      | file kept => simp only [look, found, Option.map_some, opened, Option.some.injEq,
          reduceCtorEq, exists_false]
      | dir entries => simp only [look, found, Option.map_some, opened, Option.some.injEq,
          dir.injEq, exists_eq']

/-- Whatever stands below a node stands in an entry of a directory. -/
theorem exists_of_look_cons {node : Node} {head : String} {tail : Place} {standing : Opened}
    (stands : node.look (head :: tail) = some standing) :
    ∃ entries child, node = dir entries ∧ entries.lookup head = some child ∧
      child.look tail = some standing := by
  cases node with
  | file content => simp only [look_file_cons, reduceCtorEq] at stands
  | dir entries =>
      rw [look_dir_cons, Option.bind_eq_some_iff] at stands
      obtain ⟨child, found, below⟩ := stands
      exact ⟨entries, child, rfl, found, below⟩

/-- Whatever stands below a place stands in a directory. -/
theorem look_eq_directory_of_below {node : Node} (place : Place) (name : String) (rest : Place)
    (stands : node.look (place ++ name :: rest) ≠ none) : node.look place = some .directory := by
  obtain ⟨standing, below⟩ := Option.ne_none_iff_exists'.mp stands
  clear stands
  induction place generalizing node with
  | nil =>
      obtain ⟨entries, child, rfl, -, -⟩ := exists_of_look_cons below
      rfl
  | cons head tail ih =>
      obtain ⟨entries, child, rfl, found, deeper⟩ := exists_of_look_cons below
      rw [look_dir_cons, found, Option.bind_some]
      exact ih deeper

/-- Nothing stands below a place without a directory. -/
theorem look_below_eq_none {node : Node} {place : Place}
    (free : node.look place ≠ some .directory) (name : String) (rest : Place) :
    node.look (place ++ name :: rest) = none := by
  by_contra present
  exact free (look_eq_directory_of_below place name rest present)

/-- The parent of a directory is a directory, and so is the parent of the top. -/
theorem look_dropLast {node : Node} {place : Place} (stands : node.look place = some .directory) :
    node.look place.dropLast = some .directory := by
  rcases List.eq_nil_or_concat place with rfl | ⟨front, name, rfl⟩
  · exact stands
  · rw [List.concat_eq_append] at stands ⊢
    rw [List.dropLast_concat]
    apply look_eq_directory_of_below front name []
    rw [stands]
    exact Option.some_ne_none _

/-- An entry that is inserted takes the place of the one of its name, and leaves the others. -/
theorem lookup_insertEntry (name query : String) (node : Node) (entries : List (String × Node)) :
    (insertEntry name node entries).lookup query =
      if query = name then some node else entries.lookup query := by
  induction entries with
  | nil =>
      by_cases asked : query = name
      · simp only [insertEntry, asked, List.lookup_cons_self, ↓reduceIte]
      · simp only [insertEntry, List.lookup_cons, beq_eq_false_iff_ne.mpr asked, asked, ↓reduceIte]
  | cons entry rest ih =>
      obtain ⟨other, kept⟩ := entry
      by_cases asked : query = name
      · subst asked
        simp only [insertEntry, ↓reduceIte]
        split
        next => exact List.lookup_cons_self
        next different =>
          split
          next => exact List.lookup_cons_self
          next => rw [List.lookup_cons, beq_eq_false_iff_ne.mpr different, ih, if_pos rfl]
      · simp only [asked, ↓reduceIte] at ih ⊢
        simp only [insertEntry]
        split
        next same =>
          subst same
          simp only [List.lookup_cons, beq_eq_false_iff_ne.mpr asked]
        next =>
          split
          next => simp only [List.lookup_cons, beq_eq_false_iff_ne.mpr asked]
          next => simp only [List.lookup_cons, ih]

/-- Inserting below a directory happens in the entry it leads through. -/
private theorem insert_dir_cons (entries : List (String × Node)) (head name : String)
    (rest : Place) (new : Node) :
    (dir entries).insert (head :: (rest ++ [name])) new =
      match entries.lookup head with
      | none => dir entries
      | some child => dir (insertEntry head (child.insert (rest ++ [name]) new) entries) := by
  cases rest <;> rfl

private theorem erase_dir_cons (entries : List (String × Node)) (head name : String)
    (rest : Place) :
    (dir entries).erase (head :: (rest ++ [name])) =
      match entries.lookup head with
      | none => dir entries
      | some child => dir (insertEntry head (child.erase (rest ++ [name])) entries) := by
  cases rest <;> rfl

/-- Below a directory, the view of an entry is the view of its node. -/
private theorem look_insertEntry (entries : List (String × Node)) (name step : String)
    (child : Node) (rest : Place) :
    (dir (insertEntry name child entries)).look (step :: rest) =
      if step = name then child.look rest else (dir entries).look (step :: rest) := by
  simp only [look_dir_cons, lookup_insertEntry]
  split <;> rfl

/-- Changing an entry at one place changes the directory at that place of the entry. -/
private theorem look_changeEntry {entries : List (String × Node)} {head : String}
    {child changed : Node} (found : entries.lookup head = some child) {place : Place}
    {new : Option Opened}
    (changes : ∀ query, changed.look query = if query = place then new else child.look query)
    (query : Place) :
    (dir (insertEntry head changed entries)).look query =
      if query = head :: place then new else (dir entries).look query := by
  cases query with
  | nil => rfl
  | cons step rest =>
      rw [look_insertEntry]
      by_cases same : step = head
      · subst same
        simp only [↓reduceIte, changes, List.cons.injEq, true_and, look_dir_cons, found,
          Option.bind_some]
      · simp only [same, ↓reduceIte, List.cons.injEq, false_and]

/-- Putting a file or an empty directory where no directory stands changes the view there and
nowhere else. -/
theorem look_insert {node new : Node} {parent : Place} {name : String}
    (stands : node.look parent = some .directory)
    (leaf : ∀ step rest, new.look (step :: rest) = none)
    (free : node.look (parent ++ [name]) ≠ some .directory) (place : Place) :
    (node.insert (parent ++ [name]) new).look place =
      if place = parent ++ [name] then some new.opened else node.look place := by
  induction parent generalizing node place with
  | nil =>
      obtain ⟨entries, found⟩ := (look_eq_directory_iff node []).mp stands
      obtain rfl : node = dir entries := Option.some.inj ((find?_nil node).symm.trans found)
      change (dir (insertEntry name new entries)).look place = _
      cases place with
      | nil => rfl
      | cons step rest =>
          rw [look_insertEntry]
          by_cases same : step = name
          · subst same
            cases rest with
            | nil => simp only [↓reduceIte, look_nil, List.nil_append]
            | cons next rest =>
                have vacant : (dir entries).look (step :: next :: rest) = none :=
                  look_below_eq_none free next rest
                simp only [↓reduceIte, leaf, List.nil_append, List.cons.injEq, reduceCtorEq,
                  and_false, vacant]
          · simp only [same, ↓reduceIte, List.nil_append, List.cons.injEq, false_and]
  | cons head tail ih =>
      obtain ⟨entries, child, rfl, found, below⟩ := exists_of_look_cons stands
      rw [List.cons_append, look_dir_cons, found, Option.bind_some] at free
      rw [List.cons_append, insert_dir_cons, found]
      exact look_changeEntry found (ih below free) place

/-- Taking a file away changes the view there and nowhere else. -/
theorem look_erase {node : Node} {parent : Place} {name : String} {content : Bytes}
    (stands : node.look (parent ++ [name]) = some (.file content)) (place : Place) :
    (node.erase (parent ++ [name])).look place =
      if place = parent ++ [name] then none else node.look place := by
  induction parent generalizing node place with
  | nil =>
      obtain ⟨entries, child, rfl, -, -⟩ := exists_of_look_cons stands
      have free : (dir entries).look [name] ≠ some .directory := by
        intro directory
        cases stands.symm.trans directory
      change (dir (entries.filter (·.1 ≠ name))).look place = _
      cases place with
      | nil => rfl
      | cons step rest =>
          simp only [look_dir_cons, Association.lookup_filter_ne, List.nil_append]
          by_cases same : step = name
          · subst same
            cases rest with
            | nil => simp only [↓reduceIte, Option.bind_none]
            | cons next rest =>
                have vacant : (dir entries).look (step :: next :: rest) = none :=
                  look_below_eq_none free next rest
                rw [look_dir_cons] at vacant
                simp only [↓reduceIte, Option.bind_none, List.cons.injEq, reduceCtorEq, and_false,
                  vacant]
          · simp only [same, ↓reduceIte, List.cons.injEq, false_and]
  | cons head tail ih =>
      obtain ⟨entries, child, rfl, found, below⟩ := exists_of_look_cons stands
      rw [List.cons_append, erase_dir_cons, found]
      exact look_changeEntry found (ih below) place

end Node

namespace FileSystem

variable (system : FileSystem)

/-- What stands at a place. -/
def look (place : Place) : Option Opened := system.top.look place

/-- Relative paths start from a directory. -/
def Sound : Prop := system.look system.start = some .directory

/-- The place a path starts from. -/
def origin (path : String) : Place := if Path.isAbsolute path then [] else system.start

variable {system}

theorem Sound.look_top (sound : system.Sound) : system.look [] = some .directory := by
  cases start : system.start with
  | nil => exact start ▸ sound
  | cons head tail =>
      apply Node.look_eq_directory_of_below [] head tail
      rw [List.nil_append, ← start]
      exact Option.ne_none_iff_exists'.mpr ⟨_, sound⟩

theorem Sound.look_origin (sound : system.Sound) (path : String) :
    system.look (system.origin path) = some .directory := by
  unfold origin
  split
  · exact sound.look_top
  · exact sound

end FileSystem

end PipelineDepot.Files
