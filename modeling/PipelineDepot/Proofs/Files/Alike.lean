import PipelineDepot.Proofs.Files.MakeDirs

/-! # File systems that differ in hidden contents

Two file systems are alike when they differ at most in the contents of the files at hidden
places (`FileSystem.Alike`). No call tells them apart: where it makes, writes or removes
anything it ends the same way in both and leaves them alike, and opening finds the same in both
unless the path leads to a hidden file (`FileSystem.Alike.openPath`).
-/

namespace PipelineDepot.Files.FileSystem

open Walk

/-- The file systems differ at most in the contents of hidden files. -/
structure Alike (hidden : Place → Prop) (first second : FileSystem) : Prop where
  start : first.start = second.start
  look : ∀ place, first.look place = second.look place ∨
    (hidden place ∧ ∃ one other, first.look place = some (.file one) ∧
      second.look place = some (.file other))

/-- Two calls fail for the same cause, or both succeed with related results. -/
def SameOutcome {α : Type} (related : α → α → Prop) (first second : Except FileError α) : Prop :=
  (∃ cause, first = .error cause ∧ second = .error cause) ∨
    ∃ one other, first = .ok one ∧ second = .ok other ∧ related one other

section View

variable {system : FileSystem} {path : String}

theorem lookAt_reached_eq (place : Place) :
    system.lookAt (.reached place) =
      match system.look place with
      | none => .error .notFound
      | some opened => .ok opened := by
  simp only [lookAt, nodeAt, look, Node.look]
  cases system.top.find? place <;> rfl

/-- A path opens what it asks for, but for a file with a slash behind it. -/
theorem openPath_eq_bind :
    system.openPath path = do
      match ← system.lookAt (← system.goal path) with
      | .directory => return .directory
      | .file content =>
        if endsInSlash path then throw .notADirectory else return .file content := by
  simp only [openPath, node, lookAt, bind, Except.bind]
  cases system.goal path with
  | error cause => rfl
  | ok goal =>
      simp only
      cases system.nodeAt goal with
      | error cause => rfl
      | ok found =>
          cases found with
          | dir entries => simp only [Node.isDir, Bool.not_true, Bool.and_false]; rfl
          | file content =>
              simp only [Node.isDir, Bool.not_false, Bool.and_true, Except.map, Node.opened]
              cases endsInSlash path <;> rfl

theorem isDir_iff : system.isDir path = true ↔ system.openPath path = .ok .directory := by
  simp only [isDir, openPath]
  cases system.node path with
  | error cause => simp only [Bool.false_eq_true, reduceCtorEq]
  | ok found => cases found <;> simp [Node.isDir]

theorem sound_of_makeFirst (sound : system.Sound) {next : FileSystem}
    {missing paths left : List String} (made : system.makeFirst missing paths = .ok (next, left)) :
    next.Sound := by
  have covers : ∀ path ∈ paths, ∀ place, system.OnWay path place →
      ∃ path ∈ paths, system.OnWay path place :=
    fun path member place onWay => ⟨path, member, onWay⟩
  exact (addsDirs_makeFirst sound covers made).1.keeps.sound sound

/-- A walk that reaches a place has reached a directory. -/
theorem look_of_reached (sound : system.Sound) {place : Place}
    (found : system.goal path = .ok (.reached place)) : system.look place = some .directory := by
  obtain ⟨fits, some_⟩ := fits_of_goal found
  rw [goal_eq_walk fits some_] at found
  rcases List.eq_nil_or_concat (walkPieces path) with nothing | ⟨before, last, split⟩
  · rw [nothing] at found
    cases found
    exact sound.look_origin path
  · rw [List.concat_eq_append] at split
    rw [split, walk_concat] at found
    cases travelled : travel system.top (system.origin path) before with
    | error cause => cases travelled ▸ found
    | ok arrived =>
        obtain ⟨rfl, passed⟩ := eq_of_travel (sound.look_origin path) travelled
        have stands := passed before List.prefix_rfl
        rw [travelled, Except.map, Except.ok.injEq, aim] at found
        split at found
        next =>
          cases found
          exact stands
        next =>
          split at found
          next =>
            cases found
            exact Node.look_dropLast stands
          next => cases found

end View

namespace Alike

variable {hidden : Place → Prop} {first second : FileSystem} (alike : first.Alike hidden second)
include alike

theorem enter_eq : enter first.top = enter second.top := by
  funext place piece
  by_cases dots : piece = "." ∨ piece = ".."
  · rcases dots with rfl | rfl <;> rfl
  · obtain ⟨current, parent⟩ := not_or.mp dots
    rw [enter_name place current parent, enter_name place current parent]
    rcases alike.look (place.step piece) with same | ⟨-, one, other, here, there⟩
    · simp only [FileSystem.look] at same
      rw [same]
    · simp only [FileSystem.look] at here there
      rw [here, there]

/-- A path asks for the same in both. -/
theorem goal_eq (path : String) : first.goal path = second.goal path := by
  have walked (place : Place) (pieces : List String) :
      walk first.top place pieces = walk second.top place pieces := by
    rcases List.eq_nil_or_concat pieces with rfl | ⟨front, last, rfl⟩
    · rfl
    · rw [List.concat_eq_append, walk_concat, walk_concat, travel, travel, alike.enter_eq]
  simp only [goal, alike.start, walked]

/-- Trees that stand alike lead a path to the same place. -/
theorem target_eq (path : String) : first.target path = second.target path := by
  simp only [target, origin, alike.start]

/-- Setting the view at one place to the same in both leaves them alike. -/
theorem of_sets {firstAfter secondAfter : FileSystem} {place : Place} {new : Option Opened}
    (firstSets : first.Sets firstAfter place new) (secondSets : second.Sets secondAfter place new) :
    firstAfter.Alike hidden secondAfter where
  start := by rw [firstSets.start, secondSets.start, alike.start]
  look other := by
    rw [firstSets.look, secondSets.look]
    split
    next => exact Or.inl rfl
    next => exact alike.look other

/-- Opening finds the same in both, unless a hidden file stands at the end of the path. -/
theorem openPath (sound : first.Sound) (path : String) :
    first.openPath path = second.openPath path ∨
      (hidden (first.target path) ∧ ∃ one other, first.openPath path = .ok (.file one) ∧
        second.openPath path = .ok (.file other)) := by
  rw [openPath_eq_bind, openPath_eq_bind, ← alike.goal_eq path]
  cases found : first.goal path with
  | error cause => exact Or.inl rfl
  | ok goal =>
      cases goal with
      | reached place =>
          have stands := look_of_reached sound found
          rcases alike.look place with same | ⟨-, one, other, here, -⟩
          · simp only [bind, Except.bind, lookAt_reached_eq, same, true_or]
          · cases stands.symm.trans here
      | entry parent name =>
          obtain ⟨front, rfl, asks⟩ := asks_of_goal sound found
          rw [asks.target_eq]
          by_cases short : Short name
          · simp only [bind, Except.bind, lookAt_entry short]
            rcases alike.look ((first.origin path).follow front ++ [name]) with
              same | ⟨hides, one, other, here, there⟩
            · rw [same]
              exact Or.inl rfl
            · rw [here, there]
              cases endsInSlash path with
              | true => exact Or.inl rfl
              | false => exact Or.inr ⟨hides, one, other, rfl, rfl⟩
          · have long := Nat.not_le.mp short
            simp only [bind, Except.bind, lookAt, nodeAt, long, ↓reduceIte, true_or]

theorem isDir_eq (sound : first.Sound) (path : String) : first.isDir path = second.isDir path := by
  rw [Bool.eq_iff_iff, isDir_iff, isDir_iff]
  rcases alike.openPath sound path with same | ⟨-, one, other, here, there⟩
  · rw [same]
  · simp only [here, there, Except.ok.injEq, reduceCtorEq]

variable (soundFirst : first.Sound) (soundSecond : second.Sound)
include soundFirst soundSecond

omit soundFirst soundSecond in
/-- A call ends the same way in both if the goal of the path decides whether it fails, at an
entry by what stands there and not by the content of a file, and if it changes the same. -/
theorem sameOutcome (call : FileSystem → Except FileError FileSystem) (path : String)
    (barred : FileError) (refusal : String → Option Opened → Option FileError)
    (stuck : ∀ system cause, goal system path = .error cause → call system = .error cause)
    (reached : ∀ system place, goal system path = .ok (.reached place) →
      call system = .error barred)
    (entry : ∀ system parent name, goal system path = .ok (.entry parent name) →
      ∀ cause, call system = .error cause ↔
        refusal name (system.look (parent ++ [name])) = some cause)
    (blind : ∀ name one other, refusal name (some (.file one)) = refusal name (some (.file other)))
    (changed : ∀ one other, call first = .ok one → call second = .ok other →
      one.Alike hidden other) :
    SameOutcome (Alike hidden) (call first) (call second) := by
  have failed (cause : FileError) : call first = .error cause ↔ call second = .error cause := by
    cases found : first.goal path with
    | error why => rw [stuck first why found, stuck second why (alike.goal_eq path ▸ found)]
    | ok goal =>
        have alsoFound := alike.goal_eq path ▸ found
        cases goal with
        | reached place => rw [reached first place found, reached second place alsoFound]
        | entry parent name =>
            rw [entry first parent name found, entry second parent name alsoFound]
            rcases alike.look (parent ++ [name]) with same | ⟨-, one, other, here, there⟩
            · rw [same]
            · rw [here, there, blind]
  cases here : call first with
  | error cause => exact Or.inl ⟨cause, rfl, (failed cause).mp here⟩
  | ok one =>
      cases there : call second with
      | error cause => cases here.symm.trans ((failed cause).mpr there)
      | ok other => exact Or.inr ⟨one, other, rfl, rfl, changed one other here there⟩

/-- Making one directory ends the same way in both. -/
theorem makeDir (path : String) :
    SameOutcome (Alike hidden) (first.makeDir path) (second.makeDir path) := by
  refine alike.sameOutcome (fun system => system.makeDir path) path .alreadyExists
    (fun name standing =>
      if maxName < name.utf8ByteSize then some .nameTooLong
      else match standing with
        | none => none
        | some _ => some .alreadyExists)
    ?_ ?_ ?_ ?_ ?_
  · intro system cause found
    simp only [FileSystem.makeDir, found, bind, Except.bind]
  · intro system place found
    simp only [FileSystem.makeDir, found, bind, Except.bind]
  · intro system parent name found cause
    simp only [FileSystem.makeDir, found, bind, Except.bind, FileSystem.look, Node.look]
    split
    next => simp
    next => cases system.top.find? (parent ++ [name]) <;> simp
  · intro name one other
    rfl
  · intro one other here there
    obtain ⟨-, -, -, -, firstSets⟩ := sets_of_makeDir soundFirst here
    obtain ⟨-, -, -, -, secondSets⟩ := sets_of_makeDir soundSecond there
    rw [← alike.target_eq] at secondSets
    exact alike.of_sets firstSets secondSets

/-- Writing the same content ends the same way in both. -/
theorem write (path : String) (content : Bytes) :
    SameOutcome (Alike hidden) (first.write path content) (second.write path content) := by
  refine alike.sameOutcome (fun system => system.write path content) path .isADirectory
    (fun name standing =>
      if endsInSlash path then some .isADirectory
      else if maxName < name.utf8ByteSize then some .nameTooLong
      else if standing = some .directory then some .isADirectory
      else none)
    ?_ ?_ ?_ ?_ ?_
  · intro system cause found
    simp only [FileSystem.write, found, bind, Except.bind]
  · intro system place found
    simp only [FileSystem.write, found, bind, Except.bind]
  · intro system parent name found cause
    simp only [FileSystem.write, found, bind, Except.bind, FileSystem.look, Node.look]
    split
    next => simp
    next =>
      split
      next => simp
      next =>
        split
        next entries stands => simp [stands, Node.opened]
        next apart =>
          have standing : (system.top.find? (parent ++ [name])).map Node.opened ≠
              some .directory := by
            intro opened
            obtain ⟨node, stands, directory⟩ := Option.map_eq_some_iff.mp opened
            cases node with
            | dir entries => exact apart entries stands
            | file content => cases directory
          simp [standing]
  · intro name one other
    rfl
  · intro one other here there
    obtain ⟨-, -, -, -, -, firstSets⟩ := sets_of_write soundFirst here
    obtain ⟨-, -, -, -, -, secondSets⟩ := sets_of_write soundSecond there
    rw [← alike.target_eq] at secondSets
    exact alike.of_sets firstSets secondSets

/-- Removing a file ends the same way in both. -/
theorem remove (path : String) :
    SameOutcome (Alike hidden) (first.remove path) (second.remove path) := by
  refine alike.sameOutcome (fun system => system.remove path) path .isADirectory
    (fun name standing =>
      if maxName < name.utf8ByteSize then some .nameTooLong
      else match standing with
        | none => some .notFound
        | some .directory => some .isADirectory
        | some (.file _) => if endsInSlash path then some .notADirectory else none)
    ?_ ?_ ?_ ?_ ?_
  · intro system cause found
    simp only [FileSystem.remove, found, bind, Except.bind]
  · intro system place found
    simp only [FileSystem.remove, found, bind, Except.bind]
  · intro system parent name found cause
    simp only [FileSystem.remove, found, bind, Except.bind, FileSystem.look, Node.look]
    split
    next => simp
    next =>
      cases system.top.find? (parent ++ [name]) with
      | none => simp
      | some node =>
          cases node with
          | dir entries => simp [Node.opened]
          | file content =>
              simp only [Option.map_some, Node.opened]
              split <;> simp
  · intro name one other
    rfl
  · intro one other here there
    obtain ⟨-, -, -, -, -, -, firstSets⟩ := sets_of_remove soundFirst here
    obtain ⟨-, -, -, -, -, -, secondSets⟩ := sets_of_remove soundSecond there
    rw [← alike.target_eq] at secondSets
    exact alike.of_sets firstSets secondSets

/-- Going up ends the same way in both. -/
theorem makeFirst (missing paths : List String) :
    SameOutcome (fun one other => one.1.Alike hidden other.1 ∧ one.2 = other.2)
      (first.makeFirst missing paths) (second.makeFirst missing paths) := by
  induction paths generalizing missing with
  | nil => exact Or.inr ⟨_, _, rfl, rfl, alike, rfl⟩
  | cons path parents ih =>
      simp only [FileSystem.makeFirst]
      rcases alike.makeDir soundFirst soundSecond path with
        ⟨cause, here, there⟩ | ⟨one, other, here, there, next⟩
      · rw [here, there]
        by_cases absent : cause = .notFound
        · subst absent
          exact ih (path :: missing)
        · simp only [← alike.isDir_eq soundFirst path]
          split
          next => exact Or.inr ⟨_, _, rfl, rfl, alike, rfl⟩
          next => exact Or.inl ⟨cause, rfl, rfl⟩
      · rw [here, there]
        exact Or.inr ⟨_, _, rfl, rfl, next, rfl⟩

omit soundFirst soundSecond in
/-- Going down ends the same way in both. -/
theorem makeEach (soundFirst : first.Sound) (soundSecond : second.Sound) (paths : List String) :
    (first.makeEach paths).1 = (second.makeEach paths).1 ∧
      (first.makeEach paths).2.Alike hidden (second.makeEach paths).2 := by
  induction paths generalizing first second with
  | nil => exact ⟨rfl, alike⟩
  | cons path rest ih =>
      simp only [FileSystem.makeEach]
      rcases alike.makeDir soundFirst soundSecond path with
        ⟨cause, here, there⟩ | ⟨one, other, here, there, next⟩
      · rw [here, there]
        simp only [← alike.isDir_eq soundFirst path]
        split
        next => exact ih alike soundFirst soundSecond
        next => exact ⟨rfl, alike⟩
      · rw [here, there]
        exact ih next ((addsDirs_makeDir soundFirst here).keeps.sound soundFirst)
          ((addsDirs_makeDir soundSecond there).keeps.sound soundSecond)

/-- Making a directory with its parents ends the same way in both. -/
theorem makeDirs (path : String) :
    (first.makeDirs path).1 = (second.makeDirs path).1 ∧
      (first.makeDirs path).2.Alike hidden (second.makeDirs path).2 := by
  simp only [FileSystem.makeDirs]
  rcases alike.makeFirst soundFirst soundSecond [] (Path.ancestors path) with
    ⟨cause, here, there⟩ | ⟨⟨one, left⟩, ⟨other, _⟩, here, there, next, rfl⟩
  · rw [here, there]
    exact ⟨rfl, alike⟩
  · rw [here, there]
    exact next.makeEach (sound_of_makeFirst soundFirst here)
      (sound_of_makeFirst soundSecond there) left

end Alike

end PipelineDepot.Files.FileSystem
