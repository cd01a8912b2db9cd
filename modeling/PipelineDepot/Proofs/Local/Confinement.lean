import PipelineDepot.Proofs.BucketName
import PipelineDepot.Proofs.Files.Alike
import PipelineDepot.Proofs.JoinPath
import PipelineDepot.Proofs.Local.Client

/-! # Buckets are confined and kept apart

Whatever bucket and key a depot accepts, the path of the object resolves to a place within the
bucket, and the bucket to a place within the root. A name that passes for a bucket is a single
name as a path, so two buckets lie beside each other: no path in the one resolves to a place
within the other, no call on the one changes an object of the other, and none answers in a way
that depends on what the objects of the other contain (`Local.confined`).
-/

namespace PipelineDepot.Blob.Local

open Files FileSystem

variable {depot : Local} {system : FileSystem} {bucket key path field : String}

/-- An object of the bucket belongs at the place. -/
def HasPlace (depot : Local) (system : FileSystem) (bucket : String) (place : Place) : Prop :=
  ∃ key path, depot.objectPath bucket key = .ok path ∧ place = system.target path

/-! ## Resolved locations -/

/-- The bucket of an accepted pair adds its names to those of the root, and the key its own. -/
theorem names_join (located : depot.objectPath bucket key = .ok path) :
    (Path.names (KeyPath.join [depot.root, bucket]) =
        Path.names (KeyPath.join [depot.root]) ++ Path.names bucket ∧
      Path.isAbsolute (KeyPath.join [depot.root, bucket]) =
        Path.isAbsolute (KeyPath.join [depot.root])) ∧
    Path.names (KeyPath.join [depot.root, bucket, key]) =
        Path.names (KeyPath.join [depot.root, bucket]) ++ Path.names key ∧
      Path.isAbsolute (KeyPath.join [depot.root, bucket, key]) =
        Path.isAbsolute (KeyPath.join [depot.root, bucket]) := by
  obtain ⟨⟨acceptedBucket, acceptedKey⟩, -⟩ := objectPath_eq_ok_iff.mp located
  obtain ⟨someBucket, plainBucket⟩ := (keyFault?_eq_none_iff bucket).mp acceptedBucket
  obtain ⟨someKey, plainKey⟩ := (keyFault?_eq_none_iff key).mp acceptedKey
  exact ⟨KeyPath.names_join_concat [depot.root] someBucket plainBucket,
    KeyPath.names_join_concat [depot.root, bucket] someKey plainKey⟩

/-- Paths in two buckets part at the names of the buckets. -/
theorem not_within_of_ne {other otherKey otherPath : String}
    (passed : Validation.bucketName field bucket = .ok ())
    (otherPassed : Validation.bucketName field other = .ok ()) (different : bucket ≠ other)
    (located : depot.objectPath bucket key = .ok path)
    (otherLocated : depot.objectPath other otherKey = .ok otherPath) :
    ¬ Path.Within (KeyPath.join [depot.root, bucket, key])
      (KeyPath.join [depot.root, other, otherKey]) := by
  rintro ⟨-, leads⟩
  obtain ⟨⟨here, -⟩, below, -⟩ := names_join located
  obtain ⟨⟨there, -⟩, otherBelow, -⟩ := names_join otherLocated
  rw [below, here, otherBelow, there, (Validation.names_of_bucketName passed).2.1,
    (Validation.names_of_bucketName otherPassed).2.1, List.append_assoc, List.append_assoc,
    List.prefix_append_right_inj] at leads
  exact different (List.cons_prefix_cons.mp leads).1.symm

/-! ## Calls -/

/-- A bucket is the first name of its objects below the root. -/
theorem inner_of_bucketName (passed : Validation.bucketName field bucket = .ok ())
    (key : String) : inner bucket key = bucket :: Path.names key := by
  rw [inner, Path.names_append_slash, (Validation.names_of_bucketName passed).2.1]
  rfl

/-- The objects of two buckets have different places. -/
theorem not_hasPlace_of_ne {other : String} (passed : Validation.bucketName field bucket = .ok ())
    (otherPassed : Validation.bucketName field other = .ok ()) (different : bucket ≠ other)
    (located : depot.objectPath bucket key = .ok path) :
    ¬ depot.HasPlace system other (system.target path) := by
  rintro ⟨otherKey, otherPath, otherLocated, same⟩
  rw [(locates_of_objectPath located).target_eq, (locates_of_objectPath otherLocated).target_eq,
    inner_of_bucketName passed, inner_of_bucketName otherPassed, List.append_cancel_left_eq] at same
  exact different (List.cons.inj same).1

/-- A call leaves every file alone that does not stand where its own object belongs. -/
theorem look_file_answer_iff (sound : system.Sound) (depot : Local) (call : Call) {place : Place}
    (apart : ∀ path, depot.objectPath call.address.1 call.address.2 = .ok path →
      place ≠ system.target path) (content : Bytes) :
    (depot.onDisk.answer call system).2.look place = some (.file content) ↔
      system.look place = some (.file content) := by
  cases call with
  | put request =>
      change (depot.onDisk.put request system).2.look place = some (.file content) ↔ _
      rcases put_cases sound depot request with
        ⟨path, after, located, done, stored⟩ | ⟨path, cause, after, -, failed, adds⟩ |
          ⟨cause, -, failed⟩
      · rw [done]
        rcases stored.look_of_ne (apart path located) with same | ⟨absent, added, -⟩
        · rw [same]
        · simp only [absent, added, Option.some.injEq, reduceCtorEq]
      · rw [failed]
        exact adds.look_file_iff content
      · rw [failed]
  | get bucket key =>
      change (depot.onDisk.get bucket key system).2.look place = some (.file content) ↔ _
      rw [get_eq]
  | delete bucket key =>
      change (depot.onDisk.delete bucket key system).2.look place = some (.file content) ↔ _
      rcases delete_cases sound depot bucket key with
        ⟨path, after, old, located, done, -, sets⟩ | ⟨path, -, done, -⟩ | ⟨cause, failed⟩
      · rw [done, sets.look, if_neg (apart path located)]
      · rw [done]
      · rw [failed]

/-- Storing ends the same way in file systems that are alike. -/
theorem alike_store {hidden : Place → Prop} {first second : FileSystem}
    (alike : first.Alike hidden second) (soundFirst : first.Sound) (soundSecond : second.Sound)
    (path : String) (content : Bytes) :
    (store FileSystem.disk path content first).1 = (store FileSystem.disk path content second).1 ∧
      (store FileSystem.disk path content first).2.Alike hidden
        (store FileSystem.disk path content second).2 := by
  have made := alike.makeDirs soundFirst soundSecond ((Path.parent? path).getD "")
  have keepsFirst := (addsDirs_parent soundFirst path).keeps
  have keepsSecond := (addsDirs_parent soundSecond path).keeps
  rw [store_eq, store_eq]
  cases here : first.makeDirs ((Path.parent? path).getD "") with
  | mk answer laid =>
      cases there : second.makeDirs ((Path.parent? path).getD "") with
      | mk otherAnswer otherLaid =>
          rw [here, there] at made
          rw [here] at keepsFirst
          rw [there] at keepsSecond
          have same : answer = otherAnswer := made.1
          have next : laid.Alike hidden otherLaid := made.2
          subst same
          cases answer with
          | error cause => exact ⟨rfl, next⟩
          | ok _ =>
              change (laid.settle (laid.write path content)).1 =
                  (otherLaid.settle (otherLaid.write path content)).1 ∧
                (laid.settle (laid.write path content)).2.Alike hidden
                  (otherLaid.settle (otherLaid.write path content)).2
              rcases next.write (keepsFirst.sound soundFirst) (keepsSecond.sound soundSecond)
                path content with ⟨cause, one, other⟩ | ⟨_, _, one, other, after⟩
              · rw [one, other]
                exact ⟨rfl, next⟩
              · rw [one, other]
                exact ⟨rfl, after⟩

/-- A call answers the same in file systems that are alike, and leaves them alike, unless its
own object is hidden. -/
theorem alike_answer {hidden : Place → Prop} {first second : FileSystem}
    (alike : first.Alike hidden second) (soundFirst : first.Sound) (soundSecond : second.Sound)
    (depot : Local) (call : Call)
    (seen : ∀ path, depot.objectPath call.address.1 call.address.2 = .ok path →
      ¬ hidden (first.target path)) :
    (depot.onDisk.answer call first).1 = (depot.onDisk.answer call second).1 ∧
      (depot.onDisk.answer call first).2.Alike hidden (depot.onDisk.answer call second).2 := by
  cases call with
  | put request =>
      change (depot.onDisk.put request first).1 = (depot.onDisk.put request second).1 ∧
        (depot.onDisk.put request first).2.Alike hidden (depot.onDisk.put request second).2
      cases located : depot.objectPath request.bucket request.key with
      | error cause =>
          simp only [client, put, located]
          exact ⟨rfl, alike⟩
      | ok path =>
          obtain ⟨same, after⟩ := alike_store alike soundFirst soundSecond path request.body
          rw [put_eq located, put_eq located, same]
          exact ⟨rfl, after⟩
  | get bucket key =>
      change (depot.onDisk.get bucket key first).1 = (depot.onDisk.get bucket key second).1 ∧
        (depot.onDisk.get bucket key first).2.Alike hidden (depot.onDisk.get bucket key second).2
      rw [get_eq, get_eq]
      refine ⟨?_, alike⟩
      cases located : depot.objectPath bucket key with
      | error cause => rfl
      | ok path =>
          rcases alike.openPath soundFirst path with same | ⟨hides, -⟩
          · simp only [same]
          · exact (seen path located hides).elim
  | delete bucket key =>
      change (depot.onDisk.delete bucket key first).1 = (depot.onDisk.delete bucket key second).1 ∧
        (depot.onDisk.delete bucket key first).2.Alike hidden
          (depot.onDisk.delete bucket key second).2
      cases located : depot.objectPath bucket key with
      | error cause =>
          simp only [client, delete, located]
          exact ⟨rfl, alike⟩
      | ok path =>
          rw [delete_eq located, delete_eq located]
          rcases alike.remove soundFirst soundSecond path with
            ⟨cause, one, other⟩ | ⟨_, _, one, other, after⟩
          · rw [one, other]
            cases cause <;> exact ⟨rfl, alike⟩
          · rw [one, other]
            exact ⟨rfl, after⟩

/-! ## Confinement -/

/-- Where the objects of a depot can be, and what separates its buckets. -/
structure Confined (depot : Local) : Prop where
  /-- A pair is accepted when both parts are relative and go to no parent. -/
  accepted_iff : ∀ bucket key, (∃ path, depot.objectPath bucket key = .ok path) ↔
    (bucket ≠ "" ∧ Path.isAbsolute bucket = false ∧ ".." ∉ Path.pieces bucket) ∧
      (key ≠ "" ∧ Path.isAbsolute key = false ∧ ".." ∉ Path.pieces key)
  within : ∀ bucket key path, depot.objectPath bucket key = .ok path →
    Path.Within (KeyPath.join [depot.root, bucket, key]) (KeyPath.join [depot.root, bucket]) ∧
      Path.Within (KeyPath.join [depot.root, bucket]) (KeyPath.join [depot.root])
  /-- Paths in two buckets resolve to locations of which neither is within the other. -/
  beside : ∀ field first second, Validation.bucketName field first = .ok () →
    Validation.bucketName field second = .ok () → first ≠ second →
    ∀ key path otherKey otherPath, depot.objectPath first key = .ok path →
      depot.objectPath second otherKey = .ok otherPath →
        let location := KeyPath.join [depot.root, first, key]
        let other := KeyPath.join [depot.root, second, otherKey]
        location ≠ other ∧ ¬ Path.Within location other ∧ ¬ Path.Within other location
  /-- A call on one bucket neither makes nor changes nor loses an object of another. -/
  spared : ∀ field first second, Validation.bucketName field first = .ok () →
    Validation.bucketName field second = .ok () → first ≠ second →
    ∀ system : FileSystem, system.Sound → ∀ call : Call, call.address.1 = first →
      ∀ place, depot.HasPlace system second place → ∀ content,
        (depot.onDisk.answer call system).2.look place = some (.file content) ↔
          system.look place = some (.file content)
  /-- A call on one bucket answers the same whatever the objects of another contain. -/
  unread : ∀ field first second, Validation.bucketName field first = .ok () →
    Validation.bucketName field second = .ok () → first ≠ second →
    ∀ one other : FileSystem, one.Sound → other.Sound →
      one.Alike (depot.HasPlace one second) other → ∀ call : Call, call.address.1 = first →
        (depot.onDisk.answer call one).1 = (depot.onDisk.answer call other).1 ∧
          (depot.onDisk.answer call one).2.Alike (depot.HasPlace one second)
            (depot.onDisk.answer call other).2

/-- **Buckets are confined to the root and kept apart.** -/
theorem confined (depot : Local) : depot.Confined where
  accepted_iff bucket key := by
    have both : (∃ path, depot.objectPath bucket key = .ok path) ↔
        keyFault? bucket = none ∧ keyFault? key = none := by
      simp only [objectPath_eq_ok_iff, exists_and_left, exists_eq, and_true]
    have plain (part : String) : keyFault? part = none ↔
        part ≠ "" ∧ Path.isAbsolute part = false ∧ ".." ∉ Path.pieces part := by
      rw [keyFault?_eq_none_iff]
      exact and_congr_right fun _ =>
        ⟨fun plain => ⟨plain.relative, plain.inward⟩, fun ⟨relative, inward⟩ => ⟨relative, inward⟩⟩
    rw [both, plain, plain]
  within bucket key path located := by
    obtain ⟨⟨bucketNames, bucketRooted⟩, keyNames, keyRooted⟩ := names_join located
    exact ⟨⟨keyRooted, keyNames ▸ List.prefix_append _ _⟩,
      ⟨bucketRooted, bucketNames ▸ List.prefix_append _ _⟩⟩
  beside field first second passed otherPassed different key path otherKey otherPath located
      otherLocated := by
    have apart := not_within_of_ne passed otherPassed different located otherLocated
    refine ⟨?_, apart, not_within_of_ne otherPassed passed different.symm otherLocated located⟩
    intro same
    exact apart (same ▸ ⟨rfl, List.prefix_rfl⟩)
  spared field first second passed otherPassed different system sound call here place there := by
    apply look_file_answer_iff sound depot call
    rintro path located rfl
    exact not_hasPlace_of_ne passed otherPassed different (here ▸ located) there
  unread field first second passed otherPassed different one other soundOne soundOther alike call
      here := by
    apply alike_answer alike soundOne soundOther depot call
    intro path located
    exact not_hasPlace_of_ne passed otherPassed different (here ▸ located)

end PipelineDepot.Blob.Local
