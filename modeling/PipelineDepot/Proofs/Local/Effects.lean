import PipelineDepot.Proofs.Local.Client

/-! # Every operation touches only its own file

A directory works as a map from addresses to contents: what is put under one spelling of an
address is got under every other spelling of it, and what is deleted under one is gone under
all. Beyond the file at its address, a put makes directories on the way to it and a delete
changes nothing; a put that fails changes no file, and a delete that fails and every get change
nothing at all (`Local.ownFileOnly`).

The file system puts a limit on the spelling: a path that is too long is refused, however short
its clean form is (`Local.get_padded`).
-/

namespace PipelineDepot.Blob.Local

open Files FileSystem

variable {depot : Local} {system : FileSystem} {bucket key other keyed path : String}

/-- Another spelling of an address: accepted, with a name behind the last slash of the key, and
with a path that is not too long. -/
structure Alias (depot : Local) (bucket key other keyed : String) : Prop where
  accepted : ∃ path, depot.objectPath other keyed = .ok path ∧
    path.utf8ByteSize < FileSystem.pathLimit
  named : Path.EndsInName keyed
  same : KeyPath.clean (other ++ "/" ++ keyed) = KeyPath.clean (bucket ++ "/" ++ key)

/-- What an alias opens is what the address opens. -/
theorem Alias.get_eq (related : depot.Alias bucket key other keyed)
    (located : depot.objectPath bucket key = .ok path) (fits : Path.Fits path)
    (ends : Path.EndsInName path) (system : FileSystem) :
    (depot.onDisk.get other keyed system).1 = fetched other keyed (system.openPath path) := by
  obtain ⟨spelling, found, short⟩ := related.accepted
  have here := locates_of_objectPath located
  have there := locates_of_objectPath found
  have same : Path.names spelling = Path.names path := here.names_eq_of_address there related.same
  have nulFree := (Path.nul_mem_toList_congr same).not.mpr fits.nulFree
  have opened : system.openPath spelling = system.openPath path :=
    openPath_congr ⟨nulFree, short⟩ fits (there.endsInName_iff.mpr related.named) ends
      (there.isAbsolute_eq.trans here.isAbsolute_eq.symm) same
  rw [Local.get_eq, found, ← opened]

/-- What the operations do in a state of the file system. -/
structure OwnFileOnly (depot : Local) (system : FileSystem) : Prop where
  /-- A put that succeeds sets the file, which every alias then gets, and beyond it only makes
  directories on the way. -/
  stored : ∀ request, (depot.onDisk.put request system).1 = .ok () →
    ∃ path, depot.objectPath request.bucket request.key = .ok path ∧
      let after := (depot.onDisk.put request system).2
      (∀ bucket key, depot.Alias request.bucket request.key bucket key →
        (depot.onDisk.get bucket key after).1 = .ok (.ofBytes request.body)) ∧
      after.look (system.target path) = some (.file request.body) ∧
      ∀ place, place ≠ system.target path →
        after.look place = system.look place ∨
          (system.look place = none ∧ after.look place = some .directory ∧
            system.OnWay path place)
  /-- After a delete that succeeds no alias gets anything, and all that has changed is that the
  file is gone. -/
  deleted : ∀ bucket key, Path.EndsInName key →
    (depot.onDisk.delete bucket key system).1 = .ok () →
    ∃ path, depot.objectPath bucket key = .ok path ∧
      let after := (depot.onDisk.delete bucket key system).2
      (∀ other keyed, depot.Alias bucket key other keyed →
        (depot.onDisk.get other keyed after).1 = .error (.notFound other keyed)) ∧
      after.openPath path = .error .notFound ∧
      ∀ place, after.look place = system.look place ∨
        (place = system.target path ∧ (∃ content, system.look place = some (.file content)) ∧
          after.look place = none)
  /-- A put that fails makes, changes and removes no file, and for an invalid key changes
  nothing. -/
  refused : ∀ request cause, (depot.onDisk.put request system).1 = .error cause →
    let after := (depot.onDisk.put request system).2
    (∀ place content, after.look place = some (.file content) ↔
      system.look place = some (.file content)) ∧
    ∀ key fault, cause = .invalidKey key fault → after = system
  kept : ∀ bucket key cause, (depot.onDisk.delete bucket key system).1 = .error cause →
    (depot.onDisk.delete bucket key system).2 = system
  got : ∀ bucket key, (depot.onDisk.get bucket key system).2 = system

/-- After a delete that succeeds the path opens nothing, and only the file is gone. -/
theorem openPath_of_delete (sound : system.Sound) (ends : Path.EndsInName key)
    (deleted : (depot.onDisk.delete bucket key system).1 = .ok ()) :
    ∃ path, depot.objectPath bucket key = .ok path ∧ Path.EndsInName path ∧
      (depot.onDisk.delete bucket key system).2.openPath path = .error .notFound ∧
      ∀ place, (depot.onDisk.delete bucket key system).2.look place = system.look place ∨
        (place = system.target path ∧ (∃ content, system.look place = some (.file content)) ∧
          (depot.onDisk.delete bucket key system).2.look place = none) := by
  rcases delete_cases sound depot bucket key with
    ⟨path, after, old, located, done, holds, sets⟩ | ⟨path, located, done, missing⟩ |
      ⟨cause, failed⟩
  · rw [done]
    refine ⟨path, located, holds.ends, holds.openPath_of_sets sound sets, fun place => ?_⟩
    by_cases same : place = system.target path
    · refine Or.inr ⟨same, ⟨old, same ▸ holds.held⟩, ?_⟩
      rw [sets.look, if_pos same]
    · refine Or.inl ?_
      rw [sets.look, if_neg same]
  · rw [done]
    refine ⟨path, located, ?_, missing, fun place => Or.inl rfl⟩
    exact (locates_of_objectPath located).endsInName_iff.mpr ends
  · rw [failed] at deleted
    cases deleted

/-- **Every operation touches only its own file.** -/
theorem ownFileOnly (depot : Local) (system : FileSystem) (sound : system.Sound) :
    depot.OwnFileOnly system where
  stored request put := by
    obtain ⟨path, located, stored⟩ := stored_of_put sound request put
    have holds := stored.holds sound
    obtain ⟨front, name, asks, -⟩ := holds.asks
    refine ⟨path, located, ?_, ?_, fun place => stored.look_of_ne⟩
    · intro bucket key related
      rw [related.get_eq located asks.fits holds.ends, holds.openPath_eq]
      rfl
    · rw [← stored.keeps.target_eq]
      exact holds.held
  deleted bucket key ends deleted := by
    obtain ⟨path, located, endsPath, missing, others⟩ := openPath_of_delete sound ends deleted
    refine ⟨path, located, ?_, missing, others⟩
    intro other keyed related
    rw [related.get_eq located (fits_of_openPath endsPath missing) endsPath, missing]
    rfl
  refused request cause put := by
    rcases put_cases sound depot request with
      ⟨path, after, -, done, -⟩ | ⟨path, why, after, -, failed, adds⟩ | ⟨why, -, failed⟩
    · rw [done] at put
      cases put
    · rw [failed] at put ⊢
      refine ⟨fun place content => adds.look_file_iff content, ?_⟩
      intro key fault invalid
      rw [invalid] at put
      cases put
    · rw [failed]
      exact ⟨fun _ _ => Iff.rfl, fun _ _ _ => rfl⟩
  kept bucket key cause deleted := by
    rcases delete_cases sound depot bucket key with
      ⟨path, after, old, -, done, -, -⟩ | ⟨path, -, done, -⟩ | ⟨why, failed⟩
    · rw [done] at deleted
      cases deleted
    · rw [done]
    · rw [failed]
  got bucket key := by rw [Local.get_eq]

/-- An object put into one bucket is got from another under the same address, and one deleted
from there is gone from the first. -/
theorem ownFileOnly_spelled :
    ((Local.onDisk ⟨"root"⟩).get "abc" "./d//e"
        ((Local.onDisk ⟨"root"⟩).put ⟨"abc/d", "e", [7], .unknown, octetStream⟩
          ⟨.empty, []⟩).2).1 = .ok (.ofBytes [7]) ∧
      ((Local.onDisk ⟨"."⟩).get "abc/d" "e"
        ((Local.onDisk ⟨"."⟩).delete "abc" "./d//e"
          ⟨.dir [("abc", .dir [("d", .dir [("e", .file [7])])])], []⟩).2).1 =
        .error (.notFound "abc/d" "e") := by
  obtain ⟨_, -, got, -⟩ := (ownFileOnly ⟨"root"⟩ ⟨.empty, []⟩ rfl).stored
    ⟨"abc/d", "e", [7], .unknown, octetStream⟩ rfl
  obtain ⟨_, -, gone, -⟩ := (ownFileOnly ⟨"."⟩
    ⟨.dir [("abc", .dir [("d", .dir [("e", .file [7])])])], []⟩ rfl).deleted "abc" "./d//e"
    ⟨"e", rfl, by decide⟩ rfl
  exact ⟨got "abc" "./d//e" ⟨⟨_, rfl, by decide⟩, ⟨"e", rfl, by decide⟩, by decide⟩,
    gone "abc/d" "e" ⟨⟨_, rfl, by decide⟩, ⟨"e", rfl, by decide⟩, by decide⟩⟩

/-! ## Spellings that are too long -/

/-- A key behind steps that stay where they are. -/
def padded : Nat → String → String
  | 0, key => key
  | count + 1, key => "." ++ "/" ++ padded count key

theorem plain_dot : Path.Plain "." := ⟨by decide, by decide⟩

/-- Steps that stay where they are add to the length of a key and to nothing else. -/
theorem padded_spec (count : Nat) {key : String} (accepted : keyFault? key = none) :
    keyFault? (padded count key) = none ∧ Path.names (padded count key) = Path.names key ∧
      (Path.pieces (padded count key)).getLast? = (Path.pieces key).getLast? ∧
      2 * count ≤ (padded count key).utf8ByteSize := by
  induction count with
  | zero => exact ⟨accepted, rfl, rfl, Nat.zero_le _⟩
  | succ count ih =>
      obtain ⟨before, names, last, long⟩ := ih
      have plain := ((keyFault?_eq_none_iff _).mp before).2
      refine ⟨(keyFault?_eq_none_iff _).mpr ⟨?_, ?_⟩, ?_, ?_, ?_⟩
      · intro empty
        have dot := (String.append_eq_empty_iff.mp empty).1
        exact absurd dot (by decide)
      · exact plain_dot.append_slash (by decide) plain
      · rw [padded, Path.names_append_slash, names]
        rfl
      · rw [padded, Path.pieces_append_slash, List.getLast?_append_of_ne_nil _
          (Path.pieces_ne_nil _), last]
      · rw [padded, String.utf8ByteSize_append]
        have step : ("." ++ "/").utf8ByteSize = 2 := by decide
        omega

/-- **A spelling that is too long is refused**, although it is accepted and means the same. -/
theorem get_padded (located : depot.objectPath bucket key = .ok path)
    (nulFree : '\x00' ∉ path.toList) {count : Nat} (long : pathLimit ≤ 2 * count)
    (system : FileSystem) :
    (∃ spelling, depot.objectPath bucket (padded count key) = .ok spelling) ∧
      (Path.EndsInName (padded count key) ↔ Path.EndsInName key) ∧
      address bucket (padded count key) = address bucket key ∧
      (depot.onDisk.get bucket (padded count key) system).1 = .error (.io .nameTooLong) := by
  obtain ⟨⟨acceptedBucket, acceptedKey⟩, rfl⟩ := objectPath_eq_ok_iff.mp located
  obtain ⟨accepted, names, last, size⟩ := padded_spec count acceptedKey
  have found : depot.objectPath bucket (padded count key) = .ok _ :=
    objectPath_eq_ok_iff.mpr ⟨⟨acceptedBucket, accepted⟩, rfl⟩
  have same : address bucket (padded count key) = address bucket key := by
    refine (KeyPath.clean_eq_clean_iff (locates_of_objectPath found).plain
      (locates_of_objectPath located).plain).mpr ?_
    rw [Path.names_append_slash, Path.names_append_slash, names]
  refine ⟨⟨_, found⟩, by simp only [Path.EndsInName, last], same, ?_⟩
  have alike :=
    (locates_of_objectPath located).names_eq_of_address (locates_of_objectPath found) same
  have refused : system.goal _ = .error .nameTooLong :=
    goal_of_long ((Path.nul_mem_toList_congr alike).not.mpr nulFree)
      (Nat.le_trans long (Nat.le_trans size (Path.utf8ByteSize_le_join _ _)))
  rw [get_eq, found]
  simp only [openPath, node, refused]
  rfl

/-- The object that was put is not got under a spelling that is too long. -/
theorem put_get_padded :
    ((Local.onDisk ⟨"store"⟩).put ⟨"bkt", "k", [1], .unknown, octetStream⟩
        ⟨.empty, []⟩).1 = .ok () ∧
      (∃ spelling, objectPath ⟨"store"⟩ "bkt" (padded 2048 "k") = .ok spelling) ∧
      Path.EndsInName (padded 2048 "k") ∧
      KeyPath.clean ("bkt" ++ "/" ++ padded 2048 "k") = KeyPath.clean ("bkt" ++ "/" ++ "k") ∧
      ((Local.onDisk ⟨"store"⟩).get "bkt" (padded 2048 "k")
        ((Local.onDisk ⟨"store"⟩).put ⟨"bkt", "k", [1], .unknown, octetStream⟩
          ⟨.empty, []⟩).2).1 ≠ .ok (.ofBytes [1]) := by
  have located : objectPath ⟨"store"⟩ "bkt" "k" = .ok "store/bkt/k" := rfl
  have long : pathLimit ≤ 2 * 2048 := Nat.le_refl 4096
  obtain ⟨accepted, ends, same, refused⟩ := get_padded located (by decide) long
    ((Local.onDisk ⟨"store"⟩).put ⟨"bkt", "k", [1], .unknown, octetStream⟩ ⟨.empty, []⟩).2
  refine ⟨rfl, accepted, ends.mpr ⟨"k", rfl, by decide⟩, same, ?_⟩
  intro got
  cases refused.symm.trans got

end PipelineDepot.Blob.Local
