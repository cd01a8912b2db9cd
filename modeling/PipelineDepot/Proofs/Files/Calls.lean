import PipelineDepot.Proofs.Files.Goal

/-! # What the calls on a tree change

A file system never loses a directory: making directories only adds them, where nothing stood
(`FileSystem.AddsDirs`), and writing or removing a file changes the view at the one place that
the path leads to, where no directory stands (`FileSystem.Sets`). Either way the walks that
succeeded still do (`FileSystem.Keeps`), so a path keeps asking for what it asked for.
-/

namespace PipelineDepot.Files.FileSystem

open Walk

/-! ## Changes -/

/-- The starting place is the same, and every directory is still one. -/
structure Keeps (before after : FileSystem) : Prop where
  start : after.start = before.start
  directory : ∀ place, before.look place = some .directory → after.look place = some .directory

/-- The view has changed at one place where no directory stands, and nowhere else. -/
structure Sets (before after : FileSystem) (place : Place) (new : Option Opened) : Prop where
  start : after.start = before.start
  free : before.look place ≠ some .directory
  look : ∀ other, after.look other = if other = place then new else before.look other

/-- Directories have been added on the way, and nothing else has changed. -/
structure AddsDirs (before after : FileSystem) (way : Place → Prop) : Prop where
  start : after.start = before.start
  look : ∀ place, after.look place = before.look place ∨
    (before.look place = none ∧ after.look place = some .directory ∧ way place)

section Changes

variable {before middle after : FileSystem} {place : Place} {new : Option Opened}
  {way : Place → Prop}

theorem Keeps.refl (system : FileSystem) : system.Keeps system := ⟨rfl, fun _ stands => stands⟩

theorem Keeps.trans (first : before.Keeps middle) (second : middle.Keeps after) :
    before.Keeps after :=
  ⟨second.start.trans first.start, fun place stands =>
    second.directory place (first.directory place stands)⟩

/-- Setting a file takes no directory away, since it is not set where one stands. -/
theorem Sets.keeps (sets : before.Sets after place new) : before.Keeps after where
  start := sets.start
  directory other stands := by
    rw [sets.look]
    split
    next same => exact (sets.free (same ▸ stands)).elim
    next => exact stands

theorem AddsDirs.refl (system : FileSystem) (way : Place → Prop) : system.AddsDirs system way :=
  ⟨rfl, fun _ => Or.inl rfl⟩

theorem AddsDirs.trans (first : before.AddsDirs middle way) (second : middle.AddsDirs after way) :
    before.AddsDirs after way := by
  refine ⟨second.start.trans first.start, ?_⟩
  intro place
  rcases second.look place with same | ⟨absent, added, onWay⟩
  · rw [same]
    exact first.look place
  · rcases first.look place with same | ⟨_, earlier, _⟩
    · exact Or.inr ⟨same ▸ absent, added, onWay⟩
    · cases absent.symm.trans earlier

/-- A directory that is added stands where nothing stood. -/
theorem AddsDirs.keeps (adds : before.AddsDirs after way) : before.Keeps after where
  start := adds.start
  directory place stands := by
    rcases adds.look place with same | ⟨absent, -, -⟩
    · exact same.trans stands
    · cases absent.symm.trans stands

/-- Adding directories neither makes nor changes nor loses a file. -/
theorem AddsDirs.look_file_iff (adds : before.AddsDirs after way) (content : Bytes) :
    after.look place = some (.file content) ↔ before.look place = some (.file content) := by
  rcases adds.look place with same | ⟨absent, added, -⟩
  · rw [same]
  · simp only [absent, added, reduceCtorEq, Option.some.injEq]

theorem AddsDirs.mono {wider : Place → Prop} (adds : before.AddsDirs after way)
    (covers : ∀ place, way place → wider place) : before.AddsDirs after wider := by
  refine ⟨adds.start, ?_⟩
  intro place
  rcases adds.look place with same | ⟨absent, added, onWay⟩
  · exact Or.inl same
  · exact Or.inr ⟨absent, added, covers place onWay⟩

/-- A tree stays sound while its directories are kept. -/
theorem Keeps.sound (keeps : before.Keeps after) (sound : before.Sound) : after.Sound := by
  rw [Sound, keeps.start]
  exact keeps.directory _ sound

theorem Keeps.origin_eq (keeps : before.Keeps after) (path : String) :
    after.origin path = before.origin path := by
  simp only [origin, keeps.start]

theorem Keeps.target_eq (keeps : before.Keeps after) (path : String) :
    after.target path = before.target path := by
  simp only [target, keeps.origin_eq]

theorem Keeps.onWay_iff (keeps : before.Keeps after) (path : String) (place : Place) :
    after.OnWay path place ↔ before.OnWay path place := by
  simp only [OnWay, keeps.origin_eq]

/-- A path keeps asking for the same entry. -/
theorem Asks.of_keeps (keeps : before.Keeps after) (sound : before.Sound) {path name : String}
    {front : List String} (asks : before.Asks path front name) : after.Asks path front name where
  names_eq := asks.names_eq
  current := asks.current
  parent := asks.parent
  travelled := by
    rw [keeps.origin_eq]
    exact travel_of_kept keeps.directory (sound.look_origin path) asks.travelled
  fits := asks.fits
  ends := asks.ends

end Changes

/-! ## Opening -/

section Opening

variable {system : FileSystem} {path : String}

theorem endsInSlash_eq_false (ends : Path.EndsInName path) : endsInSlash path = false := by
  obtain ⟨last, found, means⟩ := ends
  apply beq_eq_false_iff_ne.mpr
  intro slash
  obtain ⟨front, -, split⟩ := Path.pieces_of_slash slash
  rw [split, List.getLast?_concat] at found
  exact means.1 (Option.some.inj found).symm

/-- What opening finds where a goal leads. -/
def lookAt (system : FileSystem) (goal : Goal) : Except FileError Opened :=
  (system.nodeAt goal).map Node.opened

/-- A path that ends in a name opens what it asks for. -/
theorem openPath_eq (ends : Path.EndsInName path) :
    system.openPath path = (system.goal path).bind system.lookAt := by
  simp only [openPath, node, endsInSlash_eq_false ends, Bool.false_and, Bool.false_eq_true,
    ↓reduceIte]
  cases system.goal path with
  | error cause => rfl
  | ok goal =>
      simp only [lookAt, bind, Except.bind]
      cases system.nodeAt goal with
      | error cause => rfl
      | ok node => cases node <;> rfl

/-- Two spellings with the same names open the same. -/
theorem openPath_congr {other : String} (fits : Path.Fits path) (otherFits : Path.Fits other)
    (ends : Path.EndsInName path) (otherEnds : Path.EndsInName other)
    (rooted : Path.isAbsolute path = Path.isAbsolute other)
    (same : Path.names path = Path.names other) :
    system.openPath path = system.openPath other := by
  rw [openPath_eq ends, openPath_eq otherEnds, goal_eq fits ends, goal_eq otherFits otherEnds]
  simp only [origin, rooted, same]

/-- A path at which nothing is found has a text that is accepted. -/
theorem fits_of_openPath (ends : Path.EndsInName path)
    (missing : system.openPath path = .error .notFound) : Path.Fits path := by
  rw [openPath_eq ends] at missing
  have nulFree : '\x00' ∉ path.toList := fun inside => by
    rw [goal_of_nul inside] at missing
    cases missing
  refine ⟨nulFree, Nat.not_le.mp ?_⟩
  intro long
  rw [goal_of_long nulFree long] at missing
  cases missing

theorem lookAt_entry {parent : Place} {name : String} (short : Short name) :
    system.lookAt (.entry parent name) =
      match system.look (parent ++ [name]) with
      | none => .error .notFound
      | some opened => .ok opened := by
  simp only [lookAt, nodeAt, Nat.not_lt.mpr short, ↓reduceIte, look, Node.look]
  cases system.top.find? (parent ++ [name]) <;> rfl

/-- A path that asks for an entry opens what stands at the place it leads to. -/
theorem Asks.openPath_eq {front : List String} {name : String} (asks : system.Asks path front name)
    (ends : Path.EndsInName path) (short : Short name) :
    system.openPath path =
      match system.look (system.target path) with
      | none => .error .notFound
      | some opened => .ok opened := by
  rw [FileSystem.openPath_eq ends, asks.goal_eq, asks.target_eq]
  exact lookAt_entry short

/-- A file with this content stands where the path leads, and the path reaches it. -/
structure Holds (system : FileSystem) (path : String) (content : Bytes) : Prop where
  asks : ∃ front name, system.Asks path front name ∧ Short name
  ends : Path.EndsInName path
  held : system.look (system.target path) = some (.file content)

/-- A path that holds a file opens it. -/
theorem Holds.openPath_eq {content : Bytes} (holds : system.Holds path content) :
    system.openPath path = .ok (.file content) := by
  obtain ⟨front, name, asks, short⟩ := holds.asks
  rw [asks.openPath_eq holds.ends short, holds.held]

/-- A path whose file is taken away opens nothing. -/
theorem Holds.openPath_of_sets {after : FileSystem} {content : Bytes} (sound : system.Sound)
    (holds : system.Holds path content) (sets : system.Sets after (system.target path) none) :
    after.openPath path = .error .notFound := by
  obtain ⟨front, name, asks, short⟩ := holds.asks
  rw [(asks.of_keeps sets.keeps sound).openPath_eq holds.ends short, sets.keeps.target_eq,
    sets.look, if_pos rfl]

/-- A change that keeps the directories and the file keeps the path holding it. -/
theorem Holds.of_keeps {after : FileSystem} {content : Bytes} (sound : system.Sound)
    (keeps : system.Keeps after)
    (same : after.look (system.target path) = system.look (system.target path))
    (holds : system.Holds path content) : after.Holds path content := by
  obtain ⟨front, name, asks, short⟩ := holds.asks
  refine ⟨⟨front, name, asks.of_keeps keeps sound, short⟩, holds.ends, ?_⟩
  rw [keeps.target_eq, same, holds.held]

end Opening

/-! ## Writing, removing and making one directory -/

section Writing

variable {system after : FileSystem} {path : String} {content : Bytes}

/-- Putting a leaf in place of no directory sets the view there. -/
theorem sets_insert {parent : Place} {name : String} {new : Node}
    (stands : system.look parent = some .directory)
    (leaf : ∀ step rest, new.look (step :: rest) = none)
    (free : system.look (parent ++ [name]) ≠ some .directory) :
    system.Sets { system with top := system.top.insert (parent ++ [name]) new }
      (parent ++ [name]) (some new.opened) :=
  ⟨rfl, free, Node.look_insert stands leaf free⟩

/-- A write that succeeds gives the file at the end of the path its content. -/
theorem sets_of_write (sound : system.Sound) (written : system.write path content = .ok after) :
    ∃ front name, system.Asks path front name ∧ Short name ∧ Path.EndsInName path ∧
      system.Sets after (system.target path) (some (.file content)) := by
  unfold write at written
  cases found : system.goal path with
  | error cause => simp only [found, bind, Except.bind, reduceCtorEq] at written
  | ok goal =>
      simp only [found, bind, Except.bind] at written
      cases goal with
      | reached place => cases written
      | entry parent name =>
          simp only at written
          obtain ⟨front, rfl, asks⟩ := asks_of_goal sound found
          split at written
          next => cases written
          next bare =>
            split at written
            next => cases written
            next short =>
              refine ⟨front, name, asks, Nat.not_lt.mp short,
                asks.endsInName (Bool.eq_false_iff.mpr bare), ?_⟩
              rw [asks.target_eq]
              split at written
              next => cases written
              next noDir =>
                cases written
                refine sets_insert (asks.passed sound List.prefix_rfl) (fun _ _ => rfl) ?_
                intro stands
                obtain ⟨entries, standing⟩ := (Node.look_eq_directory_iff _ _).mp stands
                exact noDir entries standing

/-- A path holds what was written to it. -/
theorem holds_of_write (sound : system.Sound) (written : system.write path content = .ok after) :
    after.Holds path content := by
  obtain ⟨front, name, asks, short, ends, sets⟩ := sets_of_write sound written
  refine ⟨⟨front, name, asks.of_keeps sets.keeps sound, short⟩, ends, ?_⟩
  rw [sets.keeps.target_eq, sets.look, if_pos rfl]

/-- Writing to a path that asks for an entry succeeds unless a directory stands there. -/
theorem Asks.write_isOk {front : List String} {name : String} (asks : system.Asks path front name)
    (ends : Path.EndsInName path) (short : Short name)
    (free : system.look (system.target path) ≠ some .directory) :
    ∃ after, system.write path content = .ok after := by
  rw [asks.target_eq] at free
  simp only [write, asks.goal_eq, bind, Except.bind, endsInSlash_eq_false ends, Bool.false_eq_true,
    Nat.not_lt.mpr short, ↓reduceIte]
  split
  next entries standing =>
    exact (free ((Node.look_eq_directory_iff _ _).mpr ⟨entries, standing⟩)).elim
  next => exact ⟨_, rfl⟩

/-- A removal that succeeds takes away the file at the end of the path. -/
theorem sets_of_remove (sound : system.Sound) (removed : system.remove path = .ok after) :
    ∃ front name, system.Asks path front name ∧ Short name ∧ Path.EndsInName path ∧
      (∃ old, system.look (system.target path) = some (.file old)) ∧
      system.Sets after (system.target path) none := by
  unfold remove at removed
  cases found : system.goal path with
  | error cause => simp only [found, bind, Except.bind, reduceCtorEq] at removed
  | ok goal =>
      simp only [found, bind, Except.bind] at removed
      cases goal with
      | reached place => cases removed
      | entry parent name =>
          simp only at removed
          obtain ⟨front, rfl, asks⟩ := asks_of_goal sound found
          split at removed
          next => cases removed
          next short =>
            split at removed
            next => cases removed
            next => cases removed
            next old standing =>
              split at removed
              next => cases removed
              next bare =>
                cases removed
                have stands := (Node.find?_eq_file_iff _ _ _).mp standing
                refine ⟨front, name, asks, Nat.not_lt.mp short,
                  asks.endsInName (Bool.eq_false_iff.mpr bare), ⟨old, ?_⟩, ?_⟩
                · rw [asks.target_eq]
                  exact stands
                · rw [asks.target_eq]
                  refine ⟨rfl, ?_, Node.look_erase stands⟩
                  rw [look, stands]
                  rintro ⟨⟩

/-- A file that a path holds can be removed. -/
theorem Holds.remove_isOk (holds : system.Holds path content) :
    ∃ after, system.remove path = .ok after := by
  obtain ⟨front, name, asks, short⟩ := holds.asks
  have held := holds.held
  rw [asks.target_eq] at held
  have stands := (Node.find?_eq_file_iff _ _ _).mpr held
  simp only [remove, asks.goal_eq, bind, Except.bind, Nat.not_lt.mpr short, ↓reduceIte, stands,
    endsInSlash_eq_false holds.ends, Bool.false_eq_true]
  exact ⟨_, rfl⟩

/-- Where a removal finds nothing, nothing can be opened. -/
theorem openPath_of_remove (missing : system.remove path = .error .notFound) :
    system.openPath path = .error .notFound := by
  unfold remove at missing
  unfold openPath node
  cases found : system.goal path with
  | error cause =>
      simp only [found, bind, Except.bind, Except.error.injEq] at missing
      rw [missing]
      rfl
  | ok goal =>
      simp only [found, bind, Except.bind] at missing ⊢
      cases goal with
      | reached place => cases missing
      | entry parent name =>
          simp only at missing
          simp only [nodeAt]
          split at missing
          next => cases missing
          next short =>
            simp only [short, ↓reduceIte]
            split at missing
            next absent => rw [absent]
            next => cases missing
            next =>
              split at missing
              next => cases missing
              next => cases missing

/-- Making a directory that succeeds adds it at the end of the path. -/
theorem sets_of_makeDir (sound : system.Sound) (made : system.makeDir path = .ok after) :
    ∃ front name, system.Asks path front name ∧ system.look (system.target path) = none ∧
      system.Sets after (system.target path) (some .directory) := by
  unfold makeDir at made
  cases found : system.goal path with
  | error cause => simp only [found, bind, Except.bind, reduceCtorEq] at made
  | ok goal =>
      simp only [found, bind, Except.bind] at made
      cases goal with
      | reached place => cases made
      | entry parent name =>
          simp only at made
          obtain ⟨front, rfl, asks⟩ := asks_of_goal sound found
          split at made
          next => cases made
          next short =>
            split at made
            next => cases made
            next absent =>
              cases made
              have vacant := (Node.find?_eq_none_iff _ _).mp absent
              refine ⟨front, name, asks, ?_, ?_⟩
              · rw [asks.target_eq]
                exact vacant
              · rw [asks.target_eq]
                refine sets_insert (asks.passed sound List.prefix_rfl)
                  (fun step rest => Node.look_empty_cons step rest) ?_
                rw [look, vacant]
                rintro ⟨⟩

end Writing

end PipelineDepot.Files.FileSystem
