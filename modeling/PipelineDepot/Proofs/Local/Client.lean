import PipelineDepot.Proofs.Files.MakeDirs
import PipelineDepot.Proofs.Local.ObjectPath
import PipelineDepot.Proofs.Session.Run

/-! # The view of a client on a tree of files

What the operations of a client over a directory do to the tree of files they run on. Storing
either adds directories on the way and then sets the file, or fails after adding directories on
the way (`Local.store_cases`); deleting takes away the file or changes nothing
(`Local.delete_cases`); getting changes nothing (`Local.get_eq`).
-/

namespace PipelineDepot.Blob.Local

open Files FileSystem

/-- The client on a tree of files. -/
abbrev onDisk (depot : Local) : Client (StateM FileSystem) := depot.client FileSystem.disk

variable {depot : Local} {system : FileSystem} {bucket key path : String}

/-! ## Storing -/

/-- The file has been stored: directories on the way first, and then the file. -/
structure Stored (before : FileSystem) (path : String) (content : Bytes) (after : FileSystem) :
    Prop where
  through : ∃ laid front name, before.AddsDirs laid (before.OnWay path) ∧
    laid.Asks path front name ∧ Walk.Short name ∧
    laid.Sets after (before.target path) (some (.file content))
  ends : Path.EndsInName path

/-- Making room for an object adds directories on the way to it only. -/
theorem addsDirs_parent (sound : system.Sound) (path : String) :
    system.AddsDirs (system.makeDirs ((Path.parent? path).getD "")).2 (system.OnWay path) := by
  cases found : Path.parent? path with
  | none => exact .refl system _
  | some parent =>
      apply (addsDirs_makeDirs sound parent).mono
      intro place onWay
      exact onWay.of_parent (Path.parent?_parentOf found)

/-- Storing makes the directories above the path and writes the file. -/
theorem store_eq (path : String) (content : Bytes) (system : FileSystem) :
    store FileSystem.disk path content system =
      match system.makeDirs ((Path.parent? path).getD "") with
      | (.error cause, laid) => (.error cause, laid)
      | (.ok (), laid) => laid.settle (laid.write path content) := by
  simp only [store, bind, StateT.bind, FileSystem.disk]
  cases system.makeDirs ((Path.parent? path).getD "") with
  | mk answer laid => cases answer <;> rfl

/-- Storing sets the file behind directories on the way, or fails and leaves directories. -/
theorem store_cases (sound : system.Sound) (path : String) (content : Bytes) :
    (∃ after, store FileSystem.disk path content system = (.ok (), after) ∧
        Stored system path content after) ∨
      ∃ cause after, store FileSystem.disk path content system = (.error cause, after) ∧
        system.AddsDirs after (system.OnWay path) := by
  have adds := addsDirs_parent sound path
  rw [store_eq]
  cases made : system.makeDirs ((Path.parent? path).getD "") with
  | mk answer laid =>
      rw [made] at adds
      cases answer with
      | error cause => exact Or.inr ⟨cause, laid, rfl, adds⟩
      | ok value =>
          simp only
          cases written : laid.write path content with
          | error cause => exact Or.inr ⟨cause, laid, rfl, adds⟩
          | ok after =>
              obtain ⟨front, name, asks, short, ends, sets⟩ :=
                sets_of_write (adds.keeps.sound sound) written
              rw [adds.keeps.target_eq] at sets
              exact Or.inl ⟨after, rfl, ⟨laid, front, name, adds, asks, short, sets⟩, ends⟩

namespace Stored

variable {before after : FileSystem} {content : Bytes} (stored : Stored before path content after)
include stored

theorem keeps : before.Keeps after := by
  obtain ⟨laid, front, name, adds, asks, short, sets⟩ := stored.through
  exact adds.keeps.trans sets.keeps

/-- The path holds the file. -/
theorem holds (sound : before.Sound) : after.Holds path content := by
  obtain ⟨laid, front, name, adds, asks, short, sets⟩ := stored.through
  refine ⟨⟨front, name, asks.of_keeps sets.keeps (adds.keeps.sound sound), short⟩, stored.ends, ?_⟩
  rw [stored.keeps.target_eq, sets.look, if_pos rfl]

/-- Away from the file, all that has changed is directories on the way. -/
theorem look_of_ne {place : Place} (apart : place ≠ before.target path) :
    after.look place = before.look place ∨
      (before.look place = none ∧ after.look place = some .directory ∧
        before.OnWay path place) := by
  obtain ⟨laid, front, name, adds, asks, short, sets⟩ := stored.through
  rw [sets.look, if_neg apart]
  exact adds.look place

end Stored

/-- Where a path holds a file, storing succeeds and changes nothing but the content. -/
theorem store_of_holds (sound : system.Sound) {old : Bytes} (holds : system.Holds path old)
    (content : Bytes) :
    ∃ after, store FileSystem.disk path content system = (.ok (), after) ∧
      ∀ place, after.look place =
        if place = system.target path then some (.file content) else system.look place := by
  obtain ⟨front, name, asks, short⟩ := holds.asks
  cases found : Path.parent? path with
  | none =>
      have named := Path.names_eq_nil_of_parent? found
      rw [asks.names_eq] at named
      exact (List.append_ne_nil_of_right_ne_nil _ (List.cons_ne_nil _ _) named).elim
  | some parent =>
      obtain ⟨clear, stands⟩ := asks.parent_laid sound (Path.parent?_parentOf found)
      obtain ⟨laid, made, keeps, same⟩ := makeDirs_of_laid sound clear stands
      have free : laid.look (laid.target path) ≠ some .directory := by
        rw [keeps.target_eq, same, holds.held]
        nofun
      have writable : ∃ after, laid.write path content = .ok after :=
        (asks.of_keeps keeps sound).write_isOk holds.ends short free
      obtain ⟨after, written⟩ := writable
      obtain ⟨-, -, -, -, -, sets⟩ := sets_of_write (keeps.sound sound) written
      refine ⟨after, ?_, fun place => ?_⟩
      · simp only [store_eq, found, Option.getD_some, made, written, settle]
      · rw [sets.look, keeps.target_eq, same]

/-- Putting stores the content at the path of the object. -/
theorem put_eq {request : PutRequest}
    (located : depot.objectPath request.bucket request.key = .ok path) (system : FileSystem) :
    depot.onDisk.put request system =
      ((store FileSystem.disk path request.body system).1.mapError .io,
        (store FileSystem.disk path request.body system).2) := by
  simp only [client, put, located, bind, StateT.bind]
  cases store FileSystem.disk path request.body system with
  | mk answer next => cases answer <;> rfl

/-- How putting an object can end. -/
theorem put_cases (sound : system.Sound) (depot : Local) (request : PutRequest) :
    (∃ path after, depot.objectPath request.bucket request.key = .ok path ∧
        depot.onDisk.put request system = (.ok (), after) ∧
        Stored system path request.body after) ∨
      (∃ path cause after, depot.objectPath request.bucket request.key = .ok path ∧
        depot.onDisk.put request system = (.error (.io cause), after) ∧
        system.AddsDirs after (system.OnWay path)) ∨
      ∃ cause, depot.objectPath request.bucket request.key = .error cause ∧
        depot.onDisk.put request system = (.error cause, system) := by
  cases located : depot.objectPath request.bucket request.key with
  | error cause =>
      refine Or.inr (Or.inr ⟨cause, rfl, ?_⟩)
      simp only [client, put, located]
      rfl
  | ok path =>
      rw [put_eq located]
      rcases store_cases sound path request.body with
        ⟨after, done, stored⟩ | ⟨cause, after, failed, adds⟩
      · rw [done]
        exact Or.inl ⟨path, after, rfl, rfl, stored⟩
      · rw [failed]
        exact Or.inr (Or.inl ⟨path, cause, after, rfl, rfl, adds⟩)

/-- A put that succeeds has stored the file. -/
theorem stored_of_put (sound : system.Sound) (request : PutRequest)
    (put : (depot.onDisk.put request system).1 = .ok ()) :
    ∃ path, depot.objectPath request.bucket request.key = .ok path ∧
      Stored system path request.body (depot.onDisk.put request system).2 := by
  rcases put_cases sound depot request with
    ⟨path, after, located, done, stored⟩ | ⟨path, cause, after, -, failed, -⟩ | ⟨cause, -, failed⟩
  · rw [done]
    exact ⟨path, located, stored⟩
  · rw [failed] at put
    cases put
  · rw [failed] at put
    cases put

/-! ## Getting -/

/-- What a get answers to what opening the path finds. -/
def fetched (bucket key : String) : Except FileError Opened → Except BlobError Reader
  | .error .notFound => .error (.notFound bucket key)
  | .error cause => .error (.io cause)
  | .ok .directory => .error (.notFound bucket key)
  | .ok (.file content) => .ok (.ofBytes content)

/-- Getting opens the path and changes nothing. -/
theorem get_eq (depot : Local) (bucket key : String) (system : FileSystem) :
    depot.onDisk.get bucket key system =
      (match depot.objectPath bucket key with
        | .error cause => .error cause
        | .ok path => fetched bucket key (system.openPath path), system) := by
  simp only [client, get]
  cases depot.objectPath bucket key with
  | error cause => rfl
  | ok path =>
      simp only [bind, StateT.bind, FileSystem.disk]
      cases system.openPath path with
      | error cause => cases cause <;> rfl
      | ok opened => cases opened <;> rfl

/-- Deleting removes the file at the path of the object, and passes over a missing one. -/
theorem delete_eq (located : depot.objectPath bucket key = .ok path) (system : FileSystem) :
    depot.onDisk.delete bucket key system =
      match system.remove path with
      | .ok after => (.ok (), after)
      | .error .notFound => (.ok (), system)
      | .error cause => (.error (.io cause), system) := by
  simp only [client, delete, located, bind, StateT.bind, FileSystem.disk]
  cases system.remove path with
  | ok after => rfl
  | error cause => cases cause <;> rfl

/-- How deleting an object can end. -/
theorem delete_cases (sound : system.Sound) (depot : Local) (bucket key : String) :
    (∃ path after old, depot.objectPath bucket key = .ok path ∧
        depot.onDisk.delete bucket key system = (.ok (), after) ∧
        system.Holds path old ∧ system.Sets after (system.target path) none) ∨
      (∃ path, depot.objectPath bucket key = .ok path ∧
        depot.onDisk.delete bucket key system = (.ok (), system) ∧
        system.openPath path = .error .notFound) ∨
      ∃ cause, depot.onDisk.delete bucket key system = (.error cause, system) := by
  cases located : depot.objectPath bucket key with
  | error cause =>
      refine Or.inr (Or.inr ⟨cause, ?_⟩)
      simp only [client, delete, located]
      rfl
  | ok path =>
      rw [delete_eq located]
      cases removed : system.remove path with
      | ok after =>
          obtain ⟨front, name, asks, short, ends, ⟨old, held⟩, sets⟩ := sets_of_remove sound removed
          exact Or.inl ⟨path, after, old, rfl, rfl, ⟨⟨front, name, asks, short⟩, ends, held⟩, sets⟩
      | error cause =>
          by_cases missing : cause = .notFound
          · subst missing
            exact Or.inr (Or.inl ⟨path, rfl, rfl, openPath_of_remove removed⟩)
          · refine Or.inr (Or.inr ⟨.io cause, ?_⟩)
            cases cause <;> first | rfl | exact (missing rfl).elim

/-! ## Any call -/

/-- No call loses a directory. -/
theorem keeps_answer (sound : system.Sound) (depot : Local) (call : Call) :
    system.Keeps (depot.onDisk.answer call system).2 := by
  cases call with
  | put request =>
      change system.Keeps (depot.onDisk.put request system).2
      rcases put_cases sound depot request with
        ⟨path, after, -, done, stored⟩ | ⟨path, cause, after, -, failed, adds⟩ | ⟨cause, -, failed⟩
      · rw [done]
        exact stored.keeps
      · rw [failed]
        exact adds.keeps
      · rw [failed]
        exact .refl system
  | get bucket key =>
      change system.Keeps (depot.onDisk.get bucket key system).2
      rw [get_eq]
      exact .refl system
  | delete bucket key =>
      change system.Keeps (depot.onDisk.delete bucket key system).2
      rcases delete_cases sound depot bucket key with
        ⟨path, after, old, -, done, -, sets⟩ | ⟨path, -, done, -⟩ | ⟨cause, failed⟩
      · rw [done]
        exact sets.keeps
      · rw [done]
        exact .refl system
      · rw [failed]
        exact .refl system

/-- A call changes a file only by putting or deleting the object that stands there. -/
theorem look_file_answer (sound : system.Sound) (depot : Local) (call : Call) {place : Place}
    {content : Bytes} (held : system.look place = some (.file content)) :
    (depot.onDisk.answer call system).2.look place = some (.file content) ∨
      ∃ bucket key path, depot.objectPath bucket key = .ok path ∧ place = system.target path ∧
        (Action.direct call).Touches (depot.onDisk.answer call system).1 bucket key := by
  cases call with
  | put request =>
      change (depot.onDisk.put request system).2.look place = some (.file content) ∨
        ∃ bucket key path, depot.objectPath bucket key = .ok path ∧ place = system.target path ∧
          (Action.direct (.put request)).Touches (depot.onDisk.put request system).1 bucket key
      rcases put_cases sound depot request with
        ⟨path, after, located, done, stored⟩ | ⟨path, cause, after, -, failed, adds⟩ |
          ⟨cause, -, failed⟩
      · rw [done]
        by_cases same : place = system.target path
        · refine Or.inr ⟨request.bucket, request.key, path, located, same, Or.inl ?_⟩
          exact ⟨request.body, (Action.writes_put _ _ _ _ _).mpr ⟨rfl, ⟨rfl, rfl⟩, rfl⟩⟩
        · rcases stored.look_of_ne same with kept | ⟨absent, -, -⟩
          · exact Or.inl (kept.trans held)
          · cases absent.symm.trans held
      · rw [failed]
        exact Or.inl ((adds.look_file_iff content).mpr held)
      · rw [failed]
        exact Or.inl held
  | get bucket key =>
      change (depot.onDisk.get bucket key system).2.look place = some (.file content) ∨ _
      rw [get_eq]
      exact Or.inl held
  | delete bucket key =>
      change (depot.onDisk.delete bucket key system).2.look place = some (.file content) ∨
        ∃ named keyed path, depot.objectPath named keyed = .ok path ∧ place = system.target path ∧
          (Action.direct (.delete bucket key)).Touches (depot.onDisk.delete bucket key system).1
            named keyed
      rcases delete_cases sound depot bucket key with
        ⟨path, after, old, located, done, -, sets⟩ | ⟨path, -, done, -⟩ | ⟨cause, failed⟩
      · rw [done]
        by_cases same : place = system.target path
        · refine Or.inr ⟨bucket, key, path, located, same, Or.inr ?_⟩
          exact (Action.deletes_delete _ _ _ _ _).mpr ⟨rfl, rfl, rfl⟩
        · refine Or.inl ?_
          rw [sets.look, if_neg same]
          exact held
      · rw [done]
        exact Or.inl held
      · rw [failed]
        exact Or.inl held

/-- What a path holds outlives every call that puts or deletes nothing of the same address. -/
theorem holds_answer (sound : system.Sound) (located : depot.Locates bucket key path)
    {content : Bytes} (holds : system.Holds path content) (call : Call)
    (apart : ∀ named keyed,
      (Action.direct call).Touches (depot.onDisk.answer call system).1 named keyed →
        address named keyed ≠ address bucket key) :
    (depot.onDisk.answer call system).2.Holds path content := by
  refine holds.of_keeps sound (keeps_answer sound depot call) ?_
  rcases look_file_answer sound depot call holds.held with
    kept | ⟨named, keyed, other, at_, same, touched⟩
  · exact kept.trans holds.held.symm
  · refine (apart named keyed touched ?_).elim
    exact (((locates_of_objectPath at_).target_eq_iff system located).mp same.symm)

/-- No action loses a directory. -/
theorem keeps_perform (sound : system.Sound) (depot : Local) (action : Action) :
    system.Keeps (action.perform depot.onDisk system).2 :=
  action.perform_invariant (keeps_answer sound depot) (.refl system)

/-- What a path holds outlives every action that touches nothing of the same address. -/
theorem holds_perform (sound : system.Sound) (located : depot.Locates bucket key path)
    {content : Bytes} (holds : system.Holds path content) (action : Action)
    (apart : ∀ named keyed, action.Touches (action.perform depot.onDisk system).1 named keyed →
      address named keyed ≠ address bucket key) :
    (action.perform depot.onDisk system).2.Holds path content := by
  rw [action.perform_snd]
  cases made : action.call? with
  | none => exact holds
  | some call =>
      apply holds_answer sound located holds call
      intro named keyed touched
      apply apart named keyed
      exact (action.touches_perform depot.onDisk system named keyed).mpr ⟨call, made, touched⟩

end PipelineDepot.Blob.Local
