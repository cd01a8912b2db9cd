import PipelineDepot.Proofs.BucketName
import PipelineDepot.Proofs.Local.Client
import PipelineDepot.Proofs.Memory.View

/-! # A directory refines a client in memory

As long as the keys in use do not get into each other's way, a store over a directory gives the
same replies as over a client in memory. `Local.Layout` says that no path in use leads through
the place of another object; `Local.Mirrors` relates the objects in memory to the files of the
tree, and every call on an object in use keeps the two related and gets the same answer
(`Local.Mirrors.answer`).
-/

namespace PipelineDepot.Blob.Local

open Files FileSystem

/-- The path of an object whose bucket and key are accepted. -/
def path (depot : Local) (bucket key : String) : String :=
  Path.join (Path.join depot.root bucket) key

/-- The objects in use have paths that the file system accepts, and none of the paths leads
through the place of another object. -/
structure Layout (depot : Local) (bucket : String) (keys : List String) (system : FileSystem) :
    Prop where
  located : ∀ key ∈ keys, depot.objectPath bucket key = .ok (depot.path bucket key)
  fits : ∀ key ∈ keys, Path.Fits (depot.path bucket key)
  short : ∀ key ∈ keys, ∀ name ∈ Path.names (depot.path bucket key), Walk.Short name
  descends : ∀ key ∈ keys, ∃ front name, Descends (depot.path bucket key) front name
  only : ∀ key ∈ keys, ∀ other ∈ keys, ∀ lead, lead <+: Path.names (depot.path bucket key) →
    (system.origin (depot.path bucket key)).follow lead =
        system.target (depot.path bucket other) →
      lead = Path.names (depot.path bucket key) ∧ key = other

/-- The objects in memory are the files of the tree, as far as the keys in use go, and no file
is in the way of any of them. -/
structure Mirrors (depot : Local) (bucket : String) (keys : List String) (memory : Memory)
    (system : FileSystem) : Prop where
  layout : depot.Layout bucket keys system
  sound : system.Sound
  working : memory.failing = []
  held : ∀ key ∈ keys, ∀ content, memory.find? bucket key = some content →
    system.Holds (depot.path bucket key) content
  absent : ∀ key ∈ keys, memory.find? bucket key = none →
    system.look (system.target (depot.path bucket key)) = none
  free : ∀ key ∈ keys, ∀ place, system.OnWay (depot.path bucket key) place →
    place ≠ system.target (depot.path bucket key) → ∀ content,
      system.look place ≠ some (.file content)

/-- The object under one key and the file at its place have changed to the same, and everything
else is as before but for directories on the way. -/
structure Changes (depot : Local) (bucket key : String) (new : Option Bytes)
    (memory next : Memory) (system after : FileSystem) : Prop where
  find?_eq : ∀ other,
    next.find? bucket other = if key = other then new else memory.find? bucket other
  failing_eq : next.failing = memory.failing
  keeps : system.Keeps after
  held : ∀ content, new = some content → after.Holds (depot.path bucket key) content
  absent : new = none → after.look (system.target (depot.path bucket key)) = none
  look_of_ne : ∀ place, place ≠ system.target (depot.path bucket key) →
    after.look place = system.look place ∨
      (system.look place = none ∧ after.look place = some .directory ∧
        system.OnWay (depot.path bucket key) place)

variable {depot : Local} {bucket key other : String} {keys : List String} {memory : Memory}
  {system after : FileSystem}

theorem Layout.of_keeps (keeps : system.Keeps after) (layout : depot.Layout bucket keys system) :
    depot.Layout bucket keys after where
  located := layout.located
  fits := layout.fits
  short := layout.short
  descends := layout.descends
  only key used other alsoUsed lead leading same :=
    layout.only key used other alsoUsed lead leading
      (by rwa [keeps.origin_eq, keeps.target_eq] at same)

/-- A path in use meets the place of an object in use only at its own end. -/
theorem Layout.eq_of_onWay (layout : depot.Layout bucket keys system) (used : key ∈ keys)
    (alsoUsed : other ∈ keys)
    (onWay : system.OnWay (depot.path bucket key) (system.target (depot.path bucket other))) :
    key = other := by
  obtain ⟨lead, leading, same⟩ := onWay
  exact (layout.only key used other alsoUsed lead leading same.symm).2

/-- The way to the parent of a path in use does not meet its own end. -/
theorem Layout.target_not_onWay (layout : depot.Layout bucket keys system) (used : key ∈ keys)
    {parent : String} (related : Path.ParentOf (depot.path bucket key) parent) :
    ¬ system.OnWay parent (system.target (depot.path bucket key)) := by
  rintro ⟨lead, leading, same⟩
  have origin_eq : system.origin parent = system.origin (depot.path bucket key) := by
    simp only [origin, related.isAbsolute_eq]
  have shorter : lead <+: Path.names (depot.path bucket key) :=
    (related.names_eq ▸ leading).trans (List.dropLast_prefix _)
  have whole := (layout.only key used key used lead shorter (origin_eq ▸ same.symm)).1
  obtain ⟨front, name, descends⟩ := layout.descends key used
  have longer := leading.length_le
  rw [related.names_eq, whole, descends.parted, List.dropLast_concat, List.length_append,
    List.length_singleton] at longer
  omega

namespace Mirrors

variable (mirrors : depot.Mirrors bucket keys memory system) (used : key ∈ keys)
include mirrors used

/-- Where an object is absent, nothing prevents its path from being made. -/
theorem clear_of_absent (absent : memory.find? bucket key = none) :
    system.Clear (depot.path bucket key) where
  fits := mirrors.layout.fits key used
  trimmed _ := by
    obtain ⟨front, name, descends⟩ := mirrors.layout.descends key used
    exact descends.ends
  short := mirrors.layout.short key used
  free place onWay content stands := by
    by_cases same : place = system.target (depot.path bucket key)
    · rw [same, mirrors.absent key used absent] at stands
      cases stands
    · exact mirrors.free key used place onWay same content stands

/-- Nothing prevents the directories above an object from being made. -/
theorem clear_parent {parent : String} (related : Path.ParentOf (depot.path bucket key) parent) :
    system.Clear parent where
  fits := by
    obtain ⟨rest, -, whole⟩ := related.leads
    exact (whole ▸ mirrors.layout.fits key used).front
  trimmed := related.trimmed
  short name member :=
    mirrors.layout.short key used name (List.dropLast_subset _ (related.names_eq ▸ member))
  free place onWay content stands := by
    refine mirrors.free key used place (onWay.of_parent related) ?_ content stands
    rintro rfl
    exact mirrors.layout.target_not_onWay used related onWay

/-- No directory stands where an object belongs. -/
theorem look_ne_directory :
    system.look (system.target (depot.path bucket key)) ≠ some .directory := by
  intro stands
  cases found : memory.find? bucket key with
  | none => cases (mirrors.absent key used found).symm.trans stands
  | some content => cases (mirrors.held key used content found).held.symm.trans stands

/-- Storing an object in use succeeds. -/
theorem store_isOk (content : Bytes) :
    ∃ after, store FileSystem.disk (depot.path bucket key) content system = (.ok (), after) := by
  obtain ⟨front, name, descends⟩ := mirrors.layout.descends key used
  have named : Path.names (depot.path bucket key) ≠ [] := by
    rw [descends.parted]
    exact List.append_ne_nil_of_right_ne_nil _ (List.cons_ne_nil _ _)
  cases found : Path.parent? (depot.path bucket key) with
  | none => exact (named (Path.names_eq_nil_of_parent? found)).elim
  | some parent =>
      have related := Path.parent?_parentOf found
      obtain ⟨laid, made, passed⟩ := makeDirs_laid mirrors.sound (mirrors.clear_parent used related)
      have adds := addsDirs_makeDirs mirrors.sound parent
      rw [made] at adds
      have sound := adds.keeps.sound mirrors.sound
      have walked : ∀ lead, lead <+: front →
          laid.look ((laid.origin (depot.path bucket key)).follow lead) = some .directory := by
        intro lead leading
        apply passed
        refine ⟨lead, ?_, ?_⟩
        · rw [related.names_eq, descends.parted, List.dropLast_concat]
          exact leading
        · simp only [origin, related.isAbsolute_eq]
      have asks := asks_of_passed (mirrors.layout.fits key used)
        (mirrors.layout.short key used) descends walked
      have free : laid.look (laid.target (depot.path bucket key)) ≠ some .directory := by
        rw [adds.keeps.target_eq]
        rcases adds.look (system.target (depot.path bucket key)) with same | ⟨-, -, onWay⟩
        · rw [same]
          exact mirrors.look_ne_directory used
        · exact (mirrors.layout.target_not_onWay used related onWay).elim
      have last := mirrors.layout.short key used name
        (descends.parted ▸ List.mem_append_right _ List.mem_cons_self)
      have writable : ∃ after, laid.write (depot.path bucket key) content = .ok after :=
        asks.write_isOk descends.ends last free
      obtain ⟨after, written⟩ := writable
      refine ⟨after, ?_⟩
      simp only [store_eq, found, Option.getD_some, made, written, settle]

omit used in
/-- Changing the object and the file of one key alike keeps the two sides related. -/
theorem of_changes {next : Memory} {new : Option Bytes} (used : key ∈ keys)
    (changes : depot.Changes bucket key new memory next system after) :
    depot.Mirrors bucket keys next after := by
  -- Another object in use is not on the way, so it stands as before.
  have apart : ∀ other ∈ keys, key ≠ other →
      after.look (system.target (depot.path bucket other)) =
        system.look (system.target (depot.path bucket other)) := by
    intro other alsoUsed different
    have distinct : system.target (depot.path bucket other) ≠
        system.target (depot.path bucket key) := by
      intro same
      have onWay := system.onWay_target (depot.path bucket key)
      exact different (mirrors.layout.eq_of_onWay used alsoUsed (same ▸ onWay))
    rcases changes.look_of_ne _ distinct with same | ⟨-, -, onWay⟩
    · exact same
    · exact (different (mirrors.layout.eq_of_onWay used alsoUsed onWay)).elim
  constructor
  case layout => exact mirrors.layout.of_keeps changes.keeps
  case sound => exact changes.keeps.sound mirrors.sound
  case working => exact changes.failing_eq.trans mirrors.working
  case held =>
    intro other alsoUsed content stands
    rw [changes.find?_eq] at stands
    split at stands
    next same =>
      subst same
      exact changes.held content stands
    next different =>
      have before := mirrors.held other alsoUsed content stands
      exact before.of_keeps mirrors.sound changes.keeps (apart other alsoUsed different)
  case absent =>
    intro other alsoUsed missing
    rw [changes.find?_eq] at missing
    rw [changes.keeps.target_eq]
    split at missing
    next same =>
      subst same
      exact changes.absent missing
    next different =>
      rw [apart other alsoUsed different]
      exact mirrors.absent other alsoUsed missing
  case free =>
    intro other alsoUsed place onWay before content stands
    rw [changes.keeps.target_eq] at before
    have onWayBefore := (changes.keeps.onWay_iff _ _).mp onWay
    have distinct : place ≠ system.target (depot.path bucket key) := by
      rintro rfl
      have same := mirrors.layout.eq_of_onWay alsoUsed used onWayBefore
      exact before (same ▸ rfl)
    rcases changes.look_of_ne place distinct with same | ⟨-, added, -⟩
    · exact mirrors.free other alsoUsed place onWayBefore before content (same ▸ stands)
    · cases added.symm.trans stands

omit used in
/-- A put of an object in use succeeds on both sides and keeps them related. -/
theorem put (request : PutRequest) (here : request.bucket = bucket) (used : request.key ∈ keys) :
    (depot.onDisk.put request system).1 = (Memory.client.put request memory).1 ∧
      depot.Mirrors bucket keys (Memory.client.put request memory).2
        (depot.onDisk.put request system).2 := by
  subst here
  have located := mirrors.layout.located request.key used
  obtain ⟨after, done⟩ := mirrors.store_isOk used request.body
  have answered : depot.onDisk.put request system = (.ok (), after) := by
    rw [put_eq located, done]
    rfl
  have stored : Stored system (depot.path request.bucket request.key) request.body after := by
    rcases store_cases mirrors.sound (depot.path request.bucket request.key) request.body with
      ⟨next, same, stored⟩ | ⟨cause, next, failed, -⟩
    · rw [done, Prod.mk.injEq] at same
      exact same.2 ▸ stored
    · cases done.symm.trans failed
  have kept : Memory.client.put request memory =
      (.ok (), (memory.record (.put request)).insert request.bucket request.key request.body) := by
    have unfolded := memory.put_eq request
    simp only [Memory.accept, mirrors.working, List.not_mem_nil, ↓reduceIte] at unfolded
    exact unfolded
  have changes : depot.Changes request.bucket request.key (some request.body) memory
      ((memory.record (.put request)).insert request.bucket request.key request.body)
      system after := {
    find?_eq := fun other => by
      rw [Memory.find?_insert, Memory.find?_record]
      simp only [true_and]
    failing_eq := rfl
    keeps := stored.keeps
    held := fun content same => Option.some.inj same ▸ stored.holds mirrors.sound
    absent := fun same => by cases same
    look_of_ne := fun place => stored.look_of_ne }
  rw [answered, kept]
  exact ⟨rfl, mirrors.of_changes used changes⟩

/-- A get of an object in use answers the same on both sides. -/
theorem get :
    (depot.onDisk.get bucket key system).1 = (Memory.client.get bucket key memory).1 ∧
      depot.Mirrors bucket keys (Memory.client.get bucket key memory).2
        (depot.onDisk.get bucket key system).2 := by
  have located := mirrors.layout.located key used
  have kept : Memory.client.get bucket key memory =
      ((memory.fetch bucket key).map .ofBytes, memory.record (.get bucket key)) :=
    memory.get_eq bucket key
  rw [get_eq, located, kept]
  refine ⟨?_, { mirrors with working := mirrors.working }⟩
  simp only [Memory.fetch, mirrors.working, List.not_mem_nil, ↓reduceIte]
  cases found : memory.find? bucket key with
  | some content =>
      rw [(mirrors.held key used content found).openPath_eq]
      rfl
  | none =>
      obtain ⟨front, name, descends⟩ := mirrors.layout.descends key used
      have missing := remove_of_absent mirrors.sound (mirrors.clear_of_absent used found) descends
        (mirrors.absent key used found)
      rw [openPath_of_remove missing]
      rfl

/-- A delete of an object in use succeeds on both sides and keeps them related. -/
theorem delete :
    (depot.onDisk.delete bucket key system).1 = (Memory.client.delete bucket key memory).1 ∧
      depot.Mirrors bucket keys (Memory.client.delete bucket key memory).2
        (depot.onDisk.delete bucket key system).2 := by
  have located := mirrors.layout.located key used
  have kept : Memory.client.delete bucket key memory =
      (.ok (), (memory.record (.delete bucket key)).erase bucket key) := by
    have unfolded := memory.delete_eq bucket key
    simp only [Memory.accept, mirrors.working, List.not_mem_nil, ↓reduceIte] at unfolded
    exact unfolded
  have found (other : String) :
      ((memory.record (.delete bucket key)).erase bucket key).find? bucket other =
        if key = other then none else memory.find? bucket other := by
    rw [Memory.find?_erase, Memory.find?_record]
    simp only [true_and]
  rw [delete_eq located, kept]
  cases stood : memory.find? bucket key with
  | none =>
      obtain ⟨front, name, descends⟩ := mirrors.layout.descends key used
      have vacant := mirrors.absent key used stood
      have changes : depot.Changes bucket key none memory
          ((memory.record (.delete bucket key)).erase bucket key) system system := {
        find?_eq := found
        failing_eq := rfl
        keeps := .refl system
        held := fun content same => by cases same
        absent := fun _ => vacant
        look_of_ne := fun place _ => Or.inl rfl }
      rw [remove_of_absent mirrors.sound (mirrors.clear_of_absent used stood) descends vacant]
      exact ⟨rfl, mirrors.of_changes used changes⟩
  | some content =>
      obtain ⟨after, removed⟩ := (mirrors.held key used content stood).remove_isOk
      obtain ⟨-, -, -, -, -, -, sets⟩ := sets_of_remove mirrors.sound removed
      have changes : depot.Changes bucket key none memory
          ((memory.record (.delete bucket key)).erase bucket key) system after := {
        find?_eq := found
        failing_eq := rfl
        keeps := sets.keeps
        held := fun content same => by cases same
        absent := fun _ => by rw [sets.look, if_pos rfl]
        look_of_ne := fun place apart => Or.inl (by rw [sets.look, if_neg apart]) }
      rw [removed]
      exact ⟨rfl, mirrors.of_changes used changes⟩

omit used in
/-- Every call on an object in use answers the same on both sides and keeps them related. -/
theorem answer (call : Call) {key : String} (address : call.address = (bucket, key))
    (used : key ∈ keys) :
    (depot.onDisk.answer call system).1 = (Memory.client.answer call memory).1 ∧
      depot.Mirrors bucket keys (Memory.client.answer call memory).2
        (depot.onDisk.answer call system).2 := by
  cases call with
  | put request =>
      obtain ⟨here, rfl⟩ := Prod.mk.inj address
      exact mirrors.put request here used
  | get named keyed =>
      obtain ⟨rfl, rfl⟩ := Prod.mk.inj address
      exact mirrors.get used
  | delete named keyed =>
      obtain ⟨rfl, rfl⟩ := Prod.mk.inj address
      exact mirrors.delete used

omit used in
/-- Every operation of a store on an object in use replies the same on both sides and keeps them
related. -/
theorem perform (store : Store) (here : store.bucket = bucket) (request : Store.Request)
    (used : request.path ∈ keys) :
    (request.perform store depot.onDisk system).1 =
        (request.perform store Memory.client memory).1 ∧
      depot.Mirrors bucket keys (request.perform store Memory.client memory).2
        (request.perform store depot.onDisk system).2 := by
  rw [request.perform_eq_run, request.perform_eq_run]
  cases planned : store.plan request with
  | settled reply => exact ⟨rfl, mirrors⟩
  | calling call finish =>
      have address : call.address = (bucket, request.path) := here ▸ Store.address_of_plan planned
      obtain ⟨same, related⟩ := mirrors.answer call address used
      exact ⟨congrArg finish same, related⟩

end Mirrors

end PipelineDepot.Blob.Local
