import PipelineDepot.Proofs.Files.Calls

/-! # Making directories

Making a directory with its parents first goes up to a parent that stands and then down again.
Whether it succeeds or not, it only adds directories on the way (`FileSystem.addsDirs_makeDirs`).
It succeeds when no file is on the way and the names are short, and then every place on the way
is a directory (`FileSystem.makeDirs_laid`).
-/

namespace PipelineDepot.Files.FileSystem

open Walk

variable {system next : FileSystem} {path : String} {way : Place → Prop}

/-! ## The frame -/

/-- Making a directory adds it on the way to its path. -/
theorem addsDirs_makeDir (sound : system.Sound) (made : system.makeDir path = .ok next) :
    system.AddsDirs next (system.OnWay path) := by
  obtain ⟨front, name, -, absent, sets⟩ := sets_of_makeDir sound made
  refine ⟨sets.start, ?_⟩
  intro place
  rw [sets.look]
  split
  next same => exact Or.inr ⟨same ▸ absent, rfl, same ▸ system.onWay_target path⟩
  next => exact Or.inl rfl

/-- Going up adds at most a directory on the way, and leaves paths that were given. -/
theorem addsDirs_makeFirst (sound : system.Sound) {missing paths left : List String}
    (covers : ∀ path ∈ paths, ∀ place, system.OnWay path place → way place)
    (made : system.makeFirst missing paths = .ok (next, left)) :
    system.AddsDirs next way ∧ ∀ path ∈ left, path ∈ missing ∨ path ∈ paths := by
  induction paths generalizing missing with
  | nil =>
      cases made
      exact ⟨.refl system way, fun path member => Or.inl member⟩
  | cons path parents ih =>
      obtain ⟨here, above⟩ := List.forall_mem_cons.mp covers
      unfold makeFirst at made
      split at made
      next made_ =>
        cases made
        exact ⟨(addsDirs_makeDir sound made_).mono here, fun path member => Or.inl member⟩
      next =>
        obtain ⟨adds, listed⟩ := ih above made
        refine ⟨adds, ?_⟩
        intro other member
        rcases listed other member with earlier | later
        · rcases List.mem_cons.mp earlier with rfl | before
          · exact Or.inr List.mem_cons_self
          · exact Or.inl before
        · exact Or.inr (List.mem_cons_of_mem _ later)
      next =>
        split at made
        next =>
          cases made
          exact ⟨.refl _ way, fun path member => Or.inl member⟩
        next => cases made

/-- Going down adds directories on the way, also when it fails. -/
theorem addsDirs_makeEach (sound : system.Sound) {paths : List String}
    (covers : ∀ path ∈ paths, ∀ place, system.OnWay path place → way place) :
    system.AddsDirs (system.makeEach paths).2 way := by
  induction paths generalizing system with
  | nil => exact .refl system way
  | cons path rest ih =>
      obtain ⟨here, later⟩ := List.forall_mem_cons.mp covers
      unfold makeEach
      split
      next next made =>
        have adds := (addsDirs_makeDir sound made).mono here
        apply adds.trans (ih (adds.keeps.sound sound) _)
        intro path member place onWay
        exact later path member place ((adds.keeps.onWay_iff path place).mp onWay)
      next =>
        split
        next => exact ih sound later
        next => exact .refl system way

theorem onWay_of_mem_ancestors {member : String} (listed : member ∈ Path.ancestors path)
    {place : Place} (onWay : system.OnWay member place) : system.OnWay path place := by
  obtain ⟨leading, rooted⟩ := Path.prefix_of_mem_ancestorsUpTo listed
  obtain ⟨front, shorter, rfl⟩ := onWay
  refine ⟨front, shorter.trans leading, ?_⟩
  simp only [origin, rooted]

/-- **Making directories only adds directories on the way**, whether it succeeds or not. -/
theorem addsDirs_makeDirs (sound : system.Sound) (path : String) :
    system.AddsDirs (system.makeDirs path).2 (system.OnWay path) := by
  have covers : ∀ member ∈ Path.ancestors path, ∀ place, system.OnWay member place →
      system.OnWay path place := by
    intro member listed place onWay
    exact onWay_of_mem_ancestors listed onWay
  unfold makeDirs
  split
  next => exact .refl system _
  next next missing made =>
    obtain ⟨first, listed⟩ := addsDirs_makeFirst sound covers made
    apply first.trans (addsDirs_makeEach (first.keeps.sound sound) _)
    intro member inside place
    rw [first.keeps.onWay_iff]
    exact covers member ((listed member inside).resolve_left List.not_mem_nil) place

/-! ## Success -/

/-- Nothing prevents a path from being made: its text and its names are accepted, it ends in a
name if it has any, and no file is on the way. -/
structure Clear (system : FileSystem) (path : String) : Prop where
  fits : Path.Fits path
  trimmed : Path.names path ≠ [] → Path.EndsInName path
  short : ∀ name ∈ Path.names path, Short name
  free : ∀ place, system.OnWay path place → ∀ content, system.look place ≠ some (.file content)

/-- All places on the way to a path are directories. -/
def Laid (system : FileSystem) (path : String) : Prop :=
  ∀ place, system.OnWay path place → system.look place = some .directory

theorem laid_of_names_eq_nil (sound : system.Sound) (nothing : Path.names path = []) :
    system.Laid path := by
  rintro place ⟨front, leading, rfl⟩
  rw [nothing, List.prefix_nil] at leading
  subst leading
  exact sound.look_origin path

/-- A path that is laid stays laid while directories are kept. -/
theorem Laid.of_keeps (keeps : system.Keeps next) (laid : system.Laid path) : next.Laid path :=
  fun place onWay => keeps.directory place (laid place ((keeps.onWay_iff path place).mp onWay))

/-- Directories that are added do not block a path. -/
theorem Clear.of_addsDirs (adds : system.AddsDirs next way) (clear : system.Clear path) :
    next.Clear path where
  fits := clear.fits
  trimmed := clear.trimmed
  short := clear.short
  free place onWay content stands :=
    clear.free place ((adds.keeps.onWay_iff path place).mp onWay) content
      ((adds.look_file_iff content).mp stands)

/-- A place on the way to the parent is on the way to the path. -/
theorem OnWay.of_parent {parent : String} (related : Path.ParentOf path parent) {place : Place}
    (onWay : system.OnWay parent place) : system.OnWay path place := by
  obtain ⟨front, leading, rfl⟩ := onWay
  refine ⟨front, leading.trans (related.names_eq ▸ List.dropLast_prefix _), ?_⟩
  simp only [origin, related.isAbsolute_eq]

theorem Clear.parent {parent : String} (related : Path.ParentOf path parent)
    (clear : system.Clear path) : system.Clear parent where
  fits := by
    obtain ⟨rest, -, rfl⟩ := related.leads
    exact clear.fits.front
  trimmed := related.trimmed
  short name member :=
    clear.short name (List.dropLast_subset _ (related.names_eq ▸ member))
  free place onWay := clear.free place (onWay.of_parent related)

/-- A directory stands where the goal of a path is one. -/
theorem isDir_of_goal {goal : Goal} (found : system.goal path = .ok goal)
    (stands : system.lookAt goal = .ok .directory) : system.isDir path = true := by
  unfold lookAt at stands
  cases standing : system.nodeAt goal with
  | error cause => cases standing ▸ stands
  | ok node =>
      cases node with
      | file content => cases standing ▸ stands
      | dir entries =>
          simp only [isDir, node, found, standing, bind, Except.bind, Node.isDir, Bool.not_true,
            Bool.and_false, Bool.false_eq_true, ↓reduceIte]

theorem lookAt_reached {place : Place} (stands : system.look place = some .directory) :
    system.lookAt (.reached place) = .ok .directory := by
  obtain ⟨entries, found⟩ := (Node.look_eq_directory_iff _ _).mp stands
  simp only [lookAt, nodeAt, found]
  rfl

/-- A path without names asks for the place it starts from. -/
theorem goal_of_names_eq_nil (fits : Path.Fits path) (some_ : path ≠ "")
    (nothing : Path.names path = []) : system.goal path = .ok (.reached (system.origin path)) := by
  rw [goal_eq_walk fits some_]
  rw [← meaningful_walkPieces] at nothing
  rcases List.eq_nil_or_concat (walkPieces path) with none_ | ⟨before, last, split⟩
  · rw [none_]
    rfl
  · rw [List.concat_eq_append] at split
    rw [split] at nothing ⊢
    have member : last ∈ before ++ [last] := List.mem_append_right _ List.mem_cons_self
    have silent := List.filter_eq_nil_iff.mp nothing last member
    have current : last = "." := by simpa using silent
    have front : meaningful before = [] :=
      (List.append_eq_nil_iff.mp ((List.filter_append _ _).symm.trans nothing)).1
    rw [walk_concat, ← travel_filter, front, current]
    rfl

/-- Through directories a clear path asks for its end; else a directory is missing. -/
theorem goal_cases (sound : system.Sound) (clear : system.Clear path)
    (ends : Path.EndsInName path) :
    ∃ front last, Path.names path = front ++ [last] ∧ Path.Means last ∧
      ((system.goal path = .ok (aim ((system.origin path).follow front) last) ∧
          ∀ lead, lead <+: front →
            system.look ((system.origin path).follow lead) = some .directory) ∨
        (system.goal path = .error .notFound ∧
          ∃ lead, lead <+: front ∧ system.look ((system.origin path).follow lead) = none)) := by
  obtain ⟨before, last, -, means, parted⟩ := ends.split
  refine ⟨before.filter Path.Means, last, parted, means, ?_⟩
  have short : ∀ name ∈ before.filter Path.Means, Short name := by
    intro name member
    exact clear.short name (parted ▸ List.mem_append_left _ member)
  have free : ∀ lead, lead <+: before.filter Path.Means → ∀ content,
      system.top.look ((system.origin path).follow lead) ≠ some (.file content) := by
    intro lead leading
    exact clear.free _ ⟨lead, parted ▸ leading.trans (List.prefix_append _ _), rfl⟩
  rw [goal_eq clear.fits ends, parted, walk_concat]
  rcases travel_cases (sound.look_origin path) short free with
    ⟨travelled, passed⟩ | ⟨failed, missing⟩
  · exact Or.inl ⟨by rw [travelled]; rfl, passed⟩
  · exact Or.inr ⟨by rw [failed]; rfl, missing⟩

/-- A path is laid when what is in front of its last name is, and its end is a directory. -/
theorem laid_of_target {front : List String} {last : String}
    (parted : Path.names path = front ++ [last])
    (passed : ∀ lead, lead <+: front →
      system.look ((system.origin path).follow lead) = some .directory)
    (stands : system.look (system.target path) = some .directory) : system.Laid path := by
  rintro place ⟨lead, leading, rfl⟩
  rw [parted] at leading
  rcases List.prefix_concat_iff.mp leading with rfl | shorter
  · rw [← parted]
    exact stands
  · exact passed lead shorter

/-- Behind directories, a directory whose name goes down is made or already there. -/
theorem makeDir_cases_of_passed (sound : system.Sound) (clear : system.Clear path)
    {front : List String} {last : String} (parted : Path.names path = front ++ [last])
    (inward : last ≠ "..")
    (found : system.goal path = .ok (.entry ((system.origin path).follow front) last))
    (passed : ∀ lead, lead <+: front →
      system.look ((system.origin path).follow lead) = some .directory) :
    (∃ next, system.makeDir path = .ok next ∧ next.Laid path) ∨
      (system.makeDir path = .error .alreadyExists ∧ system.isDir path = true ∧
        system.Laid path) := by
  have member : last ∈ Path.names path :=
    parted ▸ List.mem_append_right _ List.mem_cons_self
  have short : Short last := clear.short last member
  have leads : system.target path = (system.origin path).follow front ++ [last] :=
    target_eq_of_names parted inward
  cases standing : system.look (system.target path) with
  | none =>
      have vacant := (Node.find?_eq_none_iff _ _).mpr standing
      have tried : system.makeDir path =
          .ok { system with top := system.top.insert (system.target path) .empty } := by
        simp only [makeDir, found, bind, Except.bind, Nat.not_lt.mpr short, ↓reduceIte, ← leads,
          vacant]
      obtain ⟨_, _, -, -, sets⟩ := sets_of_makeDir sound tried
      refine Or.inl ⟨_, tried, ?_⟩
      apply laid_of_target parted
      · intro lead leading
        rw [sets.keeps.origin_eq]
        exact sets.keeps.directory _ (passed lead leading)
      · rw [sets.keeps.target_eq, sets.look, if_pos rfl]
  | some opened =>
      cases opened with
      | file content => exact (clear.free _ (system.onWay_target path) content standing).elim
      | directory =>
          obtain ⟨entries, node⟩ := (Node.look_eq_directory_iff _ _).mp standing
          have tried : system.makeDir path = .error .alreadyExists := by
            simp only [makeDir, found, bind, Except.bind, Nat.not_lt.mpr short, ↓reduceIte,
              ← leads, node]
          refine Or.inr ⟨tried, ?_, laid_of_target parted passed standing⟩
          apply isDir_of_goal found
          rw [lookAt_entry short, ← leads, standing]

/-- How an attempt to make one directory can end when nothing prevents it. -/
theorem makeDir_cases (sound : system.Sound) (clear : system.Clear path) (some_ : path ≠ "") :
    (∃ next, system.makeDir path = .ok next ∧ next.Laid path) ∨
      (system.makeDir path = .error .notFound ∧ ∃ lead, lead <+: (Path.names path).dropLast ∧
        system.look ((system.origin path).follow lead) = none) ∨
      (system.makeDir path = .error .alreadyExists ∧ system.isDir path = true ∧
        system.Laid path) := by
  by_cases nothing : Path.names path = []
  · have found : system.goal path = _ := goal_of_names_eq_nil clear.fits some_ nothing
    refine Or.inr (Or.inr ⟨?_, ?_, laid_of_names_eq_nil sound nothing⟩)
    · simp only [makeDir, found, bind, Except.bind]
    · exact isDir_of_goal found (lookAt_reached (sound.look_origin path))
  · obtain ⟨front, last, parted, means, ⟨found, passed⟩ | ⟨failed, lead, leading, absent⟩⟩ :=
      goal_cases sound clear (clear.trimmed nothing)
    · by_cases above : last = ".."
      · subst above
        have stands := (enter_dots (passed front List.prefix_rfl) (Or.inr rfl)).2
        have reached : system.look (system.target path) = some .directory := by
          rw [target, parted, Place.follow_append]
          exact stands
        refine Or.inr (Or.inr ⟨?_, ?_, laid_of_target parted passed reached⟩)
        · rw [makeDir, found]
          rfl
        · exact isDir_of_goal found (lookAt_reached stands)
      · simp only [aim, means.2, above, ↓reduceIte] at found
        rcases makeDir_cases_of_passed sound clear parted above found passed with made | stood
        · exact Or.inl made
        · exact Or.inr (Or.inr stood)
    · refine Or.inr (Or.inl ⟨?_, lead, ?_, absent⟩)
      · simp only [makeDir, failed, bind, Except.bind]
      · rw [parted, List.dropLast_concat]
        exact leading

/-- Each path in the list has the one before it as its parent. -/
def Onward : String → List String → Prop
  | _, [] => True
  | parent, path :: rest => Path.ParentOf path parent ∧ Onward path rest

/-- The paths that are still missing between a parent and a path, which is the last of them. -/
structure Pending (system : FileSystem) (parent path : String) (missing : List String) : Prop where
  onward : Onward parent missing
  ends : missing.getLastD parent = path
  clear : ∀ other ∈ missing, system.Clear other

theorem Pending.of_addsDirs {parent : String} {missing : List String}
    (adds : system.AddsDirs next way) (pending : system.Pending parent path missing) :
    next.Pending parent path missing :=
  ⟨pending.onward, pending.ends, fun other member => (pending.clear other member).of_addsDirs adds⟩

/-- Going down from a parent that is laid lays the last of the missing paths. -/
theorem makeEach_laid (sound : system.Sound) {parent : String} (laid : system.Laid parent)
    {missing : List String} (pending : system.Pending parent path missing) :
    ∃ after, system.makeEach missing = (.ok (), after) ∧ after.Laid path := by
  induction missing generalizing system parent with
  | nil =>
      obtain rfl : parent = path := pending.ends
      exact ⟨system, rfl, laid⟩
  | cons below rest ih =>
      obtain ⟨related, further⟩ := pending.onward
      obtain ⟨here, later⟩ := List.forall_mem_cons.mp pending.clear
      have remaining : system.Pending below path rest :=
        ⟨further, List.getLastD_cons.symm.trans pending.ends, later⟩
      have some_ : below ≠ "" := by
        rintro rfl
        obtain ⟨back, left, text⟩ := related.leads
        exact left (String.append_eq_empty_iff.mp text.symm).2
      rw [makeEach]
      rcases makeDir_cases sound here some_ with
        ⟨next, made, reached⟩ | ⟨_, lead, leading, absent⟩ | ⟨failed, standing, reached⟩
      · have adds := addsDirs_makeDir sound made
        simp only [made]
        exact ih (adds.keeps.sound sound) reached (remaining.of_addsDirs adds)
      · -- All places in front of the last name are on the way to the parent.
        have passed := laid _ ⟨lead, related.names_eq ▸ leading, rfl⟩
        simp only [origin, related.isAbsolute_eq] at passed absent
        cases absent.symm.trans passed
      · simp only [failed, standing, and_self, ↓reduceIte]
        exact ih sound reached remaining

/-- Going up from a clear path reaches a parent that is laid, with the paths below it pending. -/
theorem makeFirst_laid (sound : system.Sound) {limit : Nat} {current : String}
    (enough : current.length < limit) (clear : system.Clear current) {missing : List String}
    (pending : system.Pending current path missing) :
    ∃ next left parent,
      system.makeFirst missing (Path.ancestorsUpTo limit current) = .ok (next, left) ∧
        next.Sound ∧ next.Laid parent ∧ next.Pending parent path left := by
  induction limit generalizing current missing with
  | zero => exact (Nat.not_lt_zero _ enough).elim
  | succ limit ih =>
      rw [Path.ancestorsUpTo]
      split
      next empty =>
        subst empty
        have laid := laid_of_names_eq_nil sound Path.names_empty
        exact ⟨system, missing, "", rfl, sound, laid, pending⟩
      next some_ =>
        cases found : Path.parent? current with
        | none =>
            have laid := laid_of_names_eq_nil sound (Path.names_eq_nil_of_parent? found)
            exact ⟨system, missing, current, rfl, sound, laid, pending⟩
        | some parent =>
            simp only [makeFirst]
            rcases makeDir_cases sound clear some_ with
              ⟨next, made, reached⟩ | ⟨absent, -⟩ | ⟨failed, standing, reached⟩
            · have adds := addsDirs_makeDir sound made
              simp only [made]
              exact ⟨next, missing, current, rfl, adds.keeps.sound sound, reached,
                pending.of_addsDirs adds⟩
            · have related := Path.parent?_parentOf found
              have shorter : parent.length < limit := by
                obtain ⟨rest, left, rfl⟩ := related.leads
                have grows : 0 < rest.length :=
                  Nat.pos_of_ne_zero (String.length_eq_zero_iff.not.mpr left)
                rw [String.length_append] at enough
                omega
              have above : system.Pending parent path (current :: missing) :=
                ⟨⟨related, pending.onward⟩, List.getLastD_cons.trans pending.ends,
                  List.forall_mem_cons.mpr ⟨clear, pending.clear⟩⟩
              simp only [absent]
              exact ih shorter (clear.parent related) above
            · simp only [failed, standing, and_self, ↓reduceIte]
              exact ⟨system, missing, current, rfl, sound, reached, pending⟩

/-- **Making a clear path succeeds**, and then every place on the way is a directory. -/
theorem makeDirs_laid (sound : system.Sound) (clear : system.Clear path) :
    ∃ after, system.makeDirs path = (.ok (), after) ∧ after.Laid path := by
  have start : system.Pending path path [] :=
    ⟨trivial, rfl, fun _ member => (List.not_mem_nil member).elim⟩
  obtain ⟨next, left, parent, made, soundNext, reached, pending⟩ :=
    makeFirst_laid sound (Nat.lt_succ_self _) clear start
  obtain ⟨after, descended, laid⟩ := makeEach_laid soundNext reached pending
  refine ⟨after, ?_, laid⟩
  simp only [makeDirs, Path.ancestors, made, descended]

/-- The directories above a path that asks for an entry stand, and nothing prevents them. -/
theorem Asks.parent_laid (sound : system.Sound) {front : List String} {name : String}
    (asks : system.Asks path front name) {parent : String}
    (related : Path.ParentOf path parent) : system.Clear parent ∧ system.Laid parent := by
  have names : Path.names parent = front := by
    rw [related.names_eq, asks.names_eq, List.dropLast_concat]
  have laid : system.Laid parent := by
    intro place onWay
    obtain ⟨lead, leading, rfl⟩ := onWay
    have stands := asks.passed sound (names ▸ leading)
    simpa only [origin, related.isAbsolute_eq] using stands
  refine ⟨⟨?_, related.trimmed, ?_, ?_⟩, laid⟩
  · obtain ⟨rest, -, whole⟩ := related.leads
    exact (whole ▸ asks.fits).front
  · rw [names]
    exact short_of_travel asks.travelled
  · intro place onWay content stands
    cases (laid place onWay).symm.trans stands

/-- Making directories that stand changes nothing. -/
theorem makeDirs_of_laid (sound : system.Sound) (clear : system.Clear path)
    (laid : system.Laid path) :
    ∃ after, system.makeDirs path = (.ok (), after) ∧ system.Keeps after ∧
      ∀ place, after.look place = system.look place := by
  obtain ⟨after, made, -⟩ := makeDirs_laid sound clear
  have adds := addsDirs_makeDirs sound path
  rw [made] at adds
  refine ⟨after, made, adds.keeps, fun place => ?_⟩
  rcases adds.look place with same | ⟨absent, -, onWay⟩
  · exact same
  · cases absent.symm.trans (laid place onWay)

/-! ## Behind directories -/

/-- A path ends in a name that goes down. -/
structure Descends (path : String) (front : List String) (name : String) : Prop where
  parted : Path.names path = front ++ [name]
  inward : name ≠ ".."
  ends : Path.EndsInName path

theorem Descends.current {front : List String} {name : String}
    (descends : Descends path front name) : name ≠ "." := by
  have member : name ∈ Path.names path :=
    descends.parted ▸ List.mem_append_right _ List.mem_cons_self
  exact (Path.means_of_mem_names member).2

/-- Behind directories, a path that goes down asks for its entry. -/
theorem asks_of_passed (fits : Path.Fits path) (short : ∀ name ∈ Path.names path, Short name)
    {front : List String} {name : String}
    (descends : Descends path front name)
    (passed : ∀ lead, lead <+: front →
      system.look ((system.origin path).follow lead) = some .directory) :
    system.Asks path front name where
  names_eq := descends.parted
  current := descends.current
  parent := descends.inward
  travelled := by
    have shorter : ∀ name ∈ front, Short name := by
      intro name member
      exact short name (descends.parted ▸ List.mem_append_left _ member)
    exact travel_of_passed shorter passed
  fits := fits
  ends := by
    obtain ⟨before, last, split, means, parted⟩ := descends.ends.split
    obtain ⟨-, same⟩ := List.append_inj' (parted.symm.trans descends.parted) rfl
    rw [← List.singleton_inj.mp same]
    exact getLast?_walkPieces split means.1

/-- What a path fails to ask for can be neither opened nor removed. -/
theorem openPath_of_goal {cause : FileError} (failed : system.goal path = .error cause) :
    system.openPath path = .error cause ∧ system.remove path = .error cause := by
  simp only [openPath, node, remove, failed, bind, Except.bind, and_self]

/-- Where no file stands, neither at the end of a path nor in its way, nothing is found, or a
directory that cannot be removed. -/
theorem opened_cases (sound : system.Sound) (clear : system.Clear path) {front : List String}
    {name : String} (descends : Descends path front name) :
    (system.openPath path = .error .notFound ∧ system.remove path = .error .notFound) ∨
      (system.openPath path = .ok .directory ∧ system.remove path = .error .isADirectory ∧
        system.look (system.target path) = some .directory) := by
  obtain ⟨before, last, parted, means, ⟨found, -⟩ | ⟨failed, -⟩⟩ :=
    goal_cases sound clear descends.ends
  · obtain ⟨rfl, same⟩ := List.append_inj' (parted.symm.trans descends.parted) rfl
    obtain rfl := List.singleton_inj.mp same
    have member : last ∈ Path.names path :=
      parted ▸ List.mem_append_right _ List.mem_cons_self
    have short : Short last := clear.short last member
    have leads : system.target path = (system.origin path).follow before ++ [last] :=
      target_eq_of_names parted descends.inward
    simp only [aim, means.2, descends.inward, ↓reduceIte] at found
    have opens : system.openPath path =
        system.lookAt (.entry ((system.origin path).follow before) last) := by
      rw [openPath_eq descends.ends, found]
      rfl
    rw [opens, lookAt_entry short, ← leads]
    simp only [remove, found, bind, Except.bind, Nat.not_lt.mpr short, ↓reduceIte, ← leads]
    cases standing : system.look (system.target path) with
    | none =>
        have vacant := (Node.find?_eq_none_iff _ _).mpr standing
        rw [vacant]
        exact Or.inl ⟨rfl, rfl⟩
    | some opened =>
        cases opened with
        | file content => exact (clear.free _ (system.onWay_target path) content standing).elim
        | directory =>
            obtain ⟨entries, node⟩ := (Node.look_eq_directory_iff _ _).mp standing
            rw [node]
            exact Or.inr ⟨rfl, rfl, rfl⟩
  · exact Or.inl (openPath_of_goal failed)

/-- Where nothing stands and no file is in the way, nothing can be removed. -/
theorem remove_of_absent (sound : system.Sound) (clear : system.Clear path) {front : List String}
    {name : String} (descends : Descends path front name)
    (absent : system.look (system.target path) = none) :
    system.remove path = .error .notFound := by
  rcases opened_cases sound clear descends with ⟨-, missing⟩ | ⟨-, -, stands⟩
  · exact missing
  · cases absent.symm.trans stands

/-- Behind directories, a file in front of the last name is in the way. -/
theorem goal_of_file (fits : Path.Fits path) (ends : Path.EndsInName path)
    (short : ∀ name ∈ Path.names path, Short name) {front rest : List String} {name : String}
    (parted : Path.names path = front ++ name :: rest) (deeper : rest ≠ []) (inward : name ≠ "..")
    (passed : ∀ lead, lead <+: front →
      system.look ((system.origin path).follow lead) = some .directory)
    {content : Bytes}
    (stands : system.look ((system.origin path).follow front ++ [name]) = some (.file content)) :
    system.goal path = .error .notADirectory := by
  obtain ⟨between, last, rfl⟩ := (List.eq_nil_or_concat rest).resolve_left deeper
  rw [List.concat_eq_append, ← List.cons_append, ← List.append_assoc] at parted
  have member : name ∈ Path.names path := by
    rw [parted]
    exact List.mem_append_left _ (List.mem_append_right _ List.mem_cons_self)
  have shorter : ∀ piece ∈ front ++ name :: between, Short piece := by
    intro piece inside
    exact short piece (parted ▸ List.mem_append_left _ inside)
  have stopped : travel system.top (system.origin path) (front ++ name :: between) =
      .error .notADirectory :=
    travel_of_file shorter passed (Path.means_of_mem_names member).2 inward stands
  rw [goal_eq fits ends, parted, walk_concat, stopped]
  rfl

end PipelineDepot.Files.FileSystem
