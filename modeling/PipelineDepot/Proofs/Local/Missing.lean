import PipelineDepot.Proofs.Refinement

/-! # What a directory answers for a missing object

In every state that a session reaches from a fresh root, no file is on the way to the root, and
the root stands as soon as any file stands below it (`Local.Orderly`). For a bucket and key in
clean form without a file at their place, a get and a delete change nothing, and what they answer
depends on what is there instead (`Local.missing_run`). Where nothing is found both pass over it.
A directory counts as missing for a get but not for a delete, and a file on the way is an error
for both, as is a path that is too long (`Local.missing_not_passed_over`).
-/

namespace PipelineDepot.Blob.Local

open Files FileSystem

variable {depot : Local} {system after : FileSystem} {bucket key path : String}

/-! ## Reachable states -/

/-- No file is on the way to the root, and no file below it is out of reach. -/
structure Orderly (depot : Local) (system : FileSystem) : Prop where
  sound : system.Sound
  free : ∀ place, system.OnWay depot.root place → ∀ content,
    system.look place ≠ some (.file content)
  laid : ∀ below content, below ≠ [] →
    system.look (system.target depot.root ++ below) = some (.file content) →
      system.Laid depot.root

theorem orderly_of_fresh (sound : system.Sound) (fresh : depot.FreshRoot system) :
    depot.Orderly system where
  sound := sound
  free := fresh.free
  laid below content some_ stands := by
    rw [fresh.empty below some_] at stands
    cases stands

/-- What makes no file keeps a tree in order. -/
theorem Orderly.of_keeps (orderly : depot.Orderly system) (keeps : system.Keeps after)
    (files : ∀ place content, after.look place = some (.file content) →
      system.look place = some (.file content)) : depot.Orderly after where
  sound := keeps.sound orderly.sound
  free := by
    intro place onWay content stands
    have before := (keeps.onWay_iff depot.root place).mp onWay
    exact orderly.free place before content (files place content stands)
  laid := by
    intro below content some_ stands
    rw [keeps.target_eq] at stands
    have laid := orderly.laid below content some_ (files _ content stands)
    exact laid.of_keeps keeps

/-- An object is stored through the root. -/
theorem laid_of_stored (sound : system.Sound) (located : depot.Locates bucket key path)
    {content : Bytes} (stored : Stored system path content after) : after.Laid depot.root := by
  obtain ⟨laid, front, name, adds, asks, -, sets⟩ := stored.through
  obtain ⟨before, last, -, -, parted⟩ := (located.endsInName_iff.mp stored.ends).split
  have reached : laid.Sound := adds.keeps.sound sound
  -- The last name of the path is one of the key, so the whole root lies in front of it.
  have whole : Path.names depot.root ++ (Path.names bucket ++ before.filter Path.Means) ++ [last] =
      front ++ [name] := by
    rw [← asks.names_eq, located.names_eq, inner, Path.names_append_slash, parted]
    simp only [List.append_assoc]
  have passed : Path.names depot.root <+: front := by
    rw [← (List.append_inj' whole rfl).1]
    exact List.prefix_append _ _
  intro place onWay
  obtain ⟨lead, leading, rfl⟩ := (sets.keeps.onWay_iff depot.root place).mp onWay
  have stands := asks.passed reached (leading.trans passed)
  rw [located.origin_eq laid] at stands
  exact sets.keeps.directory _ stands

/-- Putting an object keeps a root orderly, also when it fails. -/
theorem Orderly.put (orderly : depot.Orderly system) (request : PutRequest) :
    depot.Orderly (depot.onDisk.put request system).2 := by
  rcases put_cases orderly.sound depot request with
    ⟨path, after, located, done, stored⟩ | ⟨path, cause, after, -, failed, adds⟩ |
      ⟨cause, -, failed⟩
  · rw [done]
    have laid := laid_of_stored orderly.sound (locates_of_objectPath located) stored
    constructor
    case sound => exact stored.keeps.sound orderly.sound
    case laid => exact fun _ _ _ _ => laid
    case free =>
      intro place onWay content stands
      cases (laid place onWay).symm.trans stands
  · rw [failed]
    exact orderly.of_keeps adds.keeps fun place content => (adds.look_file_iff content).mp
  · rw [failed]
    exact orderly

theorem Orderly.delete (orderly : depot.Orderly system) (bucket key : String) :
    depot.Orderly (depot.onDisk.delete bucket key system).2 := by
  rcases delete_cases orderly.sound depot bucket key with
    ⟨path, after, old, -, done, -, sets⟩ | ⟨path, -, done, -⟩ | ⟨cause, failed⟩
  · rw [done]
    apply orderly.of_keeps sets.keeps
    intro place content stands
    rw [sets.look] at stands
    split at stands
    next => cases stands
    next => exact stands
  · rw [done]
    exact orderly
  · rw [failed]
    exact orderly

/-- No call makes an orderly root disorderly. -/
theorem Orderly.answer (orderly : depot.Orderly system) (call : Call) :
    depot.Orderly (depot.onDisk.answer call system).2 := by
  cases call with
  | put request => exact orderly.put request
  | delete bucket key => exact orderly.delete bucket key
  | get bucket key =>
      change depot.Orderly (depot.onDisk.get bucket key system).2
      rw [get_eq]
      exact orderly

/-- Every state reached from a fresh root is in order. -/
theorem orderly_run (sound : system.Sound) (fresh : depot.FreshRoot system)
    (actions : List Action) :
    depot.Orderly (Session.run (Action.perform depot.onDisk) actions system).2 :=
  Session.run_invariant (motive := fun _ system => depot.Orderly system)
    (fun _ _ action orderly => action.perform_invariant orderly.answer orderly) actions
    (orderly_of_fresh sound fresh)

/-! ## Missing objects -/

/-- A file stands where the path of an object goes on. -/
def Blocked (depot : Local) (system : FileSystem) (bucket key : String) : Prop :=
  ∃ front rest content, Path.pieces bucket ++ Path.pieces key = front ++ rest ∧
    front ≠ [] ∧ rest ≠ [] ∧
      system.look (system.target depot.root ++ front) = some (.file content)

/-- A get and a delete of an object answer this and leave the tree as it is. -/
structure Answer (depot : Local) (system : FileSystem) (bucket key : String)
    (got : Except BlobError Reader) (deleted : Except BlobError Unit) : Prop where
  got : depot.onDisk.get bucket key system = (got, system)
  deleted : depot.onDisk.delete bucket key system = (deleted, system)

/-- What is answered for an object that is missing, by what is there instead. -/
structure Missing (depot : Local) (system : FileSystem) (bucket key : String) : Prop where
  tooLong : pathLimit ≤ (depot.path bucket key).utf8ByteSize →
    depot.Answer system bucket key (.error (.io .nameTooLong)) (.error (.io .nameTooLong))
  blocked : (depot.path bucket key).utf8ByteSize < pathLimit →
    depot.Blocked system bucket key →
      depot.Answer system bucket key (.error (.io .notADirectory)) (.error (.io .notADirectory))
  directory : (depot.path bucket key).utf8ByteSize < pathLimit →
    ¬ depot.Blocked system bucket key →
      system.openPath (depot.path bucket key) = .ok .directory →
        depot.Answer system bucket key (.error (.notFound bucket key)) (.error (.io .isADirectory))
  nothing : (depot.path bucket key).utf8ByteSize < pathLimit →
    ¬ depot.Blocked system bucket key →
      system.openPath (depot.path bucket key) ≠ .ok .directory →
        depot.Answer system bucket key (.error (.notFound bucket key)) (.ok ())

section Cases

variable (orderly : depot.Orderly system) (cleanBucket : CleanPart bucket)
  (cleanKey : CleanPart key)
include orderly cleanBucket cleanKey

/-- A file on the way to an object stops every walk to it. -/
theorem goal_of_blocked (fits : Path.Fits (depot.path bucket key))
    (short : ∀ name ∈ Path.names depot.root, Walk.Short name)
    (blocked : depot.Blocked system bucket key) :
    system.goal (depot.path bucket key) = .error .notADirectory := by
  obtain ⟨front, rest, content, split, some_, deeper, stands⟩ := blocked
  have laid : system.Laid depot.root := orderly.laid front content some_ stands
  obtain ⟨lead, name, rfl⟩ := (List.eq_nil_or_concat front).resolve_left some_
  rw [List.concat_eq_append, List.append_assoc, List.singleton_append] at split
  rw [List.concat_eq_append, ← List.append_assoc] at stands
  have leads : lead <+: Path.pieces bucket ++ Path.pieces key := split ▸ List.prefix_append _ _
  have inward : name ≠ ".." := by
    rintro rfl
    have member : ".." ∈ Path.pieces bucket ++ Path.pieces key := by
      rw [split]
      exact List.mem_append_right _ List.mem_cons_self
    exact (List.mem_append.mp member).elim cleanBucket.inward cleanKey.inward
  obtain ⟨_, _, descends⟩ := cleanBucket.path_descends cleanKey
  have parted : Path.names (depot.path bucket key) =
      Path.names depot.root ++ lead ++ name :: rest := by
    rw [cleanBucket.path_names cleanKey, split, List.append_assoc]
  apply goal_of_file fits descends.ends (cleanBucket.path_short cleanKey short) parted deeper inward
  · intro way leading
    rcases List.prefix_or_prefix_of_prefix leading (List.prefix_append _ _) with above | below
    · rw [cleanBucket.origin_eq cleanKey system]
      exact laid _ ⟨way, above, rfl⟩
    · obtain ⟨within, rfl⟩ := below
      have within_lead := (List.prefix_append_right_inj _).mp leading
      obtain ⟨between, rfl⟩ := within_lead
      rw [cleanBucket.follow_within cleanKey system ((List.prefix_append _ _).trans leads)]
      -- The file stands below this place, so a directory stands here.
      have below : between ++ [name] ≠ [] :=
        List.append_ne_nil_of_right_ne_nil _ (List.cons_ne_nil _ _)
      obtain ⟨step, further, split⟩ := List.exists_cons_of_ne_nil below
      apply Node.look_eq_directory_of_below _ step further
      rw [← split, ← List.append_assoc, List.append_assoc (system.target depot.root)]
      exact Option.ne_none_iff_exists'.mpr ⟨_, stands⟩
  · rw [cleanBucket.follow_within cleanKey system leads]
    exact stands

/-- Nothing is in the way of an object that is missing and not blocked. -/
theorem clear_of_not_blocked (fits : Path.Fits (depot.path bucket key))
    (short : ∀ name ∈ Path.names depot.root, Walk.Short name)
    (absent : ∀ content,
      system.look (system.target (depot.path bucket key)) ≠ some (.file content))
    (unblocked : ¬ depot.Blocked system bucket key) :
    system.Clear (depot.path bucket key) where
  fits := fits
  trimmed _ := by
    obtain ⟨_, _, descends⟩ := cleanBucket.path_descends cleanKey
    exact descends.ends
  short := cleanBucket.path_short cleanKey short
  free := by
    intro place onWay content stands
    obtain ⟨lead, leading, rfl⟩ := onWay
    rcases cleanBucket.onWay_cases cleanKey leading with above | ⟨within, rfl, below⟩
    · rw [cleanBucket.origin_eq cleanKey system] at stands
      exact orderly.free _ ⟨lead, above, rfl⟩ content stands
    · rw [cleanBucket.follow_within cleanKey system below] at stands
      obtain ⟨rest, split⟩ := below
      by_cases here : within = []
      · subst here
        rw [List.append_nil] at stands
        exact orderly.free _ (system.onWay_target depot.root) content stands
      · by_cases whole : rest = []
        · subst whole
          rw [List.append_nil] at split
          rw [split, ← cleanBucket.target_eq cleanKey] at stands
          exact absent content stands
        · exact unblocked ⟨within, rest, content, split.symm, here, whole, stands⟩

end Cases

/-- Getting an object opens its file and leaves the tree alone. -/
theorem get_eq_fetched (located : depot.objectPath bucket key = .ok path) (system : FileSystem) :
    depot.onDisk.get bucket key system = (fetched bucket key (system.openPath path), system) := by
  rw [get_eq, located]

/-- A path that asks for nothing gets and deletes nothing. -/
theorem answer_of_goal (located : depot.objectPath bucket key = .ok path) {cause : FileError}
    (failed : system.goal path = .error cause) (serious : cause ≠ .notFound) :
    depot.Answer system bucket key (.error (.io cause)) (.error (.io cause)) := by
  obtain ⟨opened, removed⟩ := openPath_of_goal failed
  constructor
  case got =>
    rw [get_eq_fetched located, opened]
    cases cause with
    | notFound => exact (serious rfl).elim
    | _ => rfl
  case deleted =>
    rw [delete_eq located, removed]
    cases cause with
    | notFound => exact (serious rfl).elim
    | _ => rfl

/-- **What is answered for a missing object.** In every state reached from a fresh root, where no
file stands at the place of a bucket and key in clean form, a get and a delete change nothing and
answer by what is there instead. -/
theorem missing_run (sound : system.Sound) (fresh : depot.FreshRoot system)
    (actions : List Action) (cleanBucket : CleanPart bucket) (cleanKey : CleanPart key) :
    let reached := (Session.run (Action.perform depot.onDisk) actions system).2
    (∀ content, reached.look (reached.target (depot.path bucket key)) ≠ some (.file content)) →
      depot.Missing reached bucket key := by
  intro reached absent
  have orderly : depot.Orderly reached := orderly_run sound fresh actions
  have located : depot.objectPath bucket key = .ok (depot.path bucket key) :=
    cleanBucket.located cleanKey
  have nulFree := cleanBucket.path_nulFree cleanKey fresh.nulFree
  obtain ⟨_, _, descends⟩ := cleanBucket.path_descends cleanKey
  have opened (fits : (depot.path bucket key).utf8ByteSize < pathLimit)
      (unblocked : ¬ depot.Blocked reached bucket key) :=
    opened_cases orderly.sound (clear_of_not_blocked orderly cleanBucket cleanKey ⟨nulFree, fits⟩
      fresh.short absent unblocked) descends
  constructor
  case tooLong =>
    intro long
    exact answer_of_goal located (goal_of_long nulFree long) (by decide)
  case blocked =>
    intro fits blocked
    have stopped :=
      goal_of_blocked orderly cleanBucket cleanKey ⟨nulFree, fits⟩ fresh.short blocked
    exact answer_of_goal located stopped (by decide)
  case directory =>
    intro fits unblocked directory
    rcases opened fits unblocked with ⟨missing, -⟩ | ⟨-, removed, -⟩
    · cases missing.symm.trans directory
    · constructor
      · rw [get_eq_fetched located, directory]
        rfl
      · rw [delete_eq located, removed]
  case nothing =>
    intro fits unblocked other
    rcases opened fits unblocked with ⟨missing, removed⟩ | ⟨directory, -⟩
    · constructor
      · rw [get_eq_fetched located, missing]
        rfl
      · rw [delete_eq located, removed]
    · exact (other directory).elim

/-- A tree with one object in it, put into a fresh root. -/
def oneObject : FileSystem :=
  (Session.run (Action.perform (Local.onDisk ⟨"store"⟩))
    [.direct (.put ⟨"bkt", "a/b", [1], .unknown, octetStream⟩)] ⟨.empty, []⟩).2

theorem cleanPart_bkt : CleanPart "bkt" :=
  ⟨by decide, by decide, by decide, by decide, by decide, by decide, by decide⟩

theorem cleanPart_below : CleanPart "a/b/c" :=
  ⟨by decide, by decide, by decide, by decide, by decide, by decide, by decide⟩

theorem look_below_oneObject :
    oneObject.look (oneObject.target (Local.path ⟨"store"⟩ "bkt" "a/b/c")) = none :=
  rfl

/-- Below the object everything is in its way. -/
theorem missing_run_below :
    Answer ⟨"store"⟩ oneObject "bkt" "a/b/c" (.error (.io .notADirectory))
      (.error (.io .notADirectory)) := by
  have fresh : FreshRoot ⟨"store"⟩ ⟨.empty, []⟩ :=
    freshRoot_of_empty (by decide) (by decide) (by decide)
  have sound : FileSystem.Sound ⟨.empty, []⟩ := rfl
  have missing := missing_run sound fresh
    [.direct (.put ⟨"bkt", "a/b", [1], .unknown, octetStream⟩)] cleanPart_bkt cleanPart_below
    fun content stands => nomatch look_below_oneObject.symm.trans stands
  exact missing.blocked (by decide) ⟨["bkt", "a", "b"], ["c"], [1], rfl, by decide, by decide, rfl⟩

/-- **Not every missing object is passed over.** A directory left by a longer key cannot be
deleted, and a key below an object can neither be got nor deleted. -/
theorem missing_not_passed_over :
    (CleanPart "a" ∧ (∀ content,
        oneObject.look (oneObject.target (Local.path ⟨"store"⟩ "bkt" "a")) ≠
          some (.file content)) ∧
      ((Local.onDisk ⟨"store"⟩).delete "bkt" "a" oneObject).1 ≠ .ok ()) ∧
    CleanPart "a/b/c" ∧ (∀ content,
        oneObject.look (oneObject.target (Local.path ⟨"store"⟩ "bkt" "a/b/c")) ≠
          some (.file content)) ∧
      ((Local.onDisk ⟨"store"⟩).get "bkt" "a/b/c" oneObject).1 ≠
        .error (.notFound "bkt" "a/b/c") ∧
      ((Local.onDisk ⟨"store"⟩).delete "bkt" "a/b/c" oneObject).1 ≠ .ok () := by
  have directory : oneObject.look (oneObject.target (Local.path ⟨"store"⟩ "bkt" "a")) =
      some .directory := rfl
  have refused : ((Local.onDisk ⟨"store"⟩).delete "bkt" "a" oneObject).1 =
      .error (.io .isADirectory) := rfl
  have got : ((Local.onDisk ⟨"store"⟩).get "bkt" "a/b/c" oneObject).1 =
      .error (.io .notADirectory) := rfl
  have deleted : ((Local.onDisk ⟨"store"⟩).delete "bkt" "a/b/c" oneObject).1 =
      .error (.io .notADirectory) := rfl
  have clean : CleanPart "a" :=
    ⟨by decide, by decide, by decide, by decide, by decide, by decide, by decide⟩
  rw [directory, look_below_oneObject, refused, got, deleted]
  exact ⟨⟨clean, nofun, nofun⟩, cleanPart_below, nofun, nofun, nofun⟩

end PipelineDepot.Blob.Local
