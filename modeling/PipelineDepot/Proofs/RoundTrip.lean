import PipelineDepot.Proofs.ChunkSignature.Strip
import PipelineDepot.Proofs.Local.Client
import PipelineDepot.Proofs.Memory.History

/-! # What is stored is fetched again

An object that a store has added is found again by a later get, whatever happens in between, as
long as nothing puts or deletes it: over a client in memory nothing at the same bucket and key,
over a directory nothing with the same address. The client keeps the content as it was given; a
store that transfers in a single part frees what it fetches of chunk headers, and so returns
another content exactly when the content carries one.
-/

namespace PipelineDepot

open Blob Files

namespace Store

variable {σ : Type} (store : Store) (client : Client (StateM σ)) (path : String) (content : Bytes)
  (state : σ)

/-- A get gives what the store makes of the content, which is the content itself exactly when
the store transfers in several parts or the content carries no chunk header. -/
structure Returns : Prop where
  fetched : (store.get client path state).1 =
    .ok (if store.singlePart then ChunkSignature.strip content else content)
  unaltered : (store.get client path state).1 = .ok content ↔
    store.singlePart = false ∨ ChunkSignature.contains content = false

variable {store client path content state}

/-- A content comes back as it was put in just when the store keeps headers or it holds none. -/
theorem received_eq_iff (store : Store) (content : Bytes) :
    store.received content = content ↔
      store.singlePart = false ∨ ChunkSignature.contains content = false := by
  unfold received
  cases store.singlePart with
  | true => simpa using ChunkSignature.strip_eq_self_iff content
  | false => simp

/-- A store returns what its client fetches as a whole. -/
theorem returns_of_get
    (fetched : (client.get store.bucket path state).1 = .ok (.ofBytes content)) :
    store.Returns client path content state := by
  have delivered : (store.get client path state).1 = .ok (store.received content) := by
    rw [store.get_apply, fetched]
    exact store.delivered_map_ofBytes path (.ok content)
  refine ⟨delivered, ?_⟩
  rw [delivered, Except.ok.injEq]
  exact store.received_eq_iff content

/-- An addition that succeeds is a put that succeeds. -/
theorem put_of_add (added : (store.add client content path state).1 = .ok ()) :
    (client.put (store.request content path) state).1 = .ok () ∧
      (store.add client content path state).2 =
        (client.put (store.request content path) state).2 := by
  rw [store.add_apply] at added ⊢
  refine ⟨?_, rfl⟩
  cases put : (client.put (store.request content path) state).1 with
  | error cause =>
      rw [put] at added
      cases added
  | ok value => rfl

end Store

namespace Blob

variable {store : Store} {content : Bytes} {path : String}

/-- Over a client in memory, an object that was added stays what it is while nothing touches its
bucket and key. -/
theorem Memory.find?_run {memory : Memory}
    (added : (store.add client content path memory).1 = .ok ()) (steps : List Step)
    (apart : ∀ event ∈ (Session.run Step.perform steps
      (store.add client content path memory).2).1, ¬ Event.Touches store.bucket path event) :
    (Session.run Step.perform steps (store.add client content path memory).2).2.find?
      store.bucket path = some content := by
  obtain ⟨put, left⟩ := Store.put_of_add added
  have start : (store.add client content path memory).2.find? store.bucket path = some content := by
    rw [left]
    apply (memory.find?_answer store.bucket path content (.put (store.request content path))).mpr
    exact Or.inl ((Action.writes_put _ _ _ _ _).mpr ⟨congrArg Except.isOk put, ⟨rfl, rfl⟩, rfl⟩)
  apply Session.run_preserves (motive := fun memory =>
    memory.find? store.bucket path = some content) _ steps start apart
  intro memory step held kept
  exact (step.find?_perform memory store.bucket path content).mpr (Or.inr ⟨held, kept⟩)

/-- A store over a working memory returns the object that the memory holds. -/
theorem Memory.returns_of_find? {memory : Memory} (working : .get ∉ memory.failing)
    (held : memory.find? store.bucket path = some content) :
    store.Returns client path content memory := by
  apply Store.returns_of_get
  change (memory.get store.bucket path).1 = _
  rw [get_eq]
  simp only [fetch, working, ↓reduceIte, held]
  rfl

/-- Over a directory, a path holds an object that was added while nothing touches its address. -/
theorem Local.holds_run {depot : Local} {system : FileSystem} (sound : system.Sound)
    {bucket key : String} (located : depot.Locates bucket key path)
    (holds : system.Holds path content) (actions : List Action)
    (apart : ∀ event ∈ (Session.run (Action.perform depot.onDisk) actions system).1,
      ∀ named keyed, event.step.Touches event.reply named keyed →
        address named keyed ≠ address bucket key) :
    (Session.run (Action.perform depot.onDisk) actions system).2.Holds path content := by
  have kept : ∀ (system : FileSystem) (action : Action), system.Sound ∧ system.Holds path content →
      (∀ named keyed, action.Touches (action.perform depot.onDisk system).1 named keyed →
        address named keyed ≠ address bucket key) →
      (action.perform depot.onDisk system).2.Sound ∧
        (action.perform depot.onDisk system).2.Holds path content := by
    rintro system action ⟨sound, holds⟩ allowed
    constructor
    · exact (keeps_perform sound depot action).sound sound
    · exact holds_perform sound located holds action allowed
  have start : system.Sound ∧ system.Holds path content := ⟨sound, holds⟩
  exact (Session.run_preserves (motive := fun system =>
    system.Sound ∧ system.Holds path content) kept actions start apart).2

/-- A store over a directory returns the object whose file holds it. -/
theorem Local.returns_of_holds {depot : Local} {system : FileSystem} {file : String}
    (located : depot.objectPath store.bucket path = .ok file) (holds : system.Holds file content) :
    store.Returns depot.onDisk path content system := by
  apply Store.returns_of_get
  rw [get_eq]
  simp only [located, holds.openPath_eq, fetched]

/-- Over a directory, adding succeeds only by storing the file. -/
theorem Local.stored_of_add {depot : Local} {system : FileSystem} (sound : system.Sound)
    (added : (store.add depot.onDisk content path system).1 = .ok ()) :
    ∃ file, depot.objectPath store.bucket path = .ok file ∧
      Stored system file content (store.add depot.onDisk content path system).2 := by
  obtain ⟨put, left⟩ := Store.put_of_add added
  obtain ⟨file, located, stored⟩ := stored_of_put sound (store.request content path) put
  exact ⟨file, located, left ▸ stored⟩

end Blob

/-- **What a store has added, it gets again.** Take any store, content and path, and any state of
the client in which adding succeeds. Whatever steps follow, if none of them writes or deletes the
object and getting is not set to fail, a get returns the content, without its chunk headers where
the store transfers in a single part; and the client holds the content itself. -/
theorem Store.get_after_add (store : Store) (content : Bytes) (path : String) :
    (∀ memory : Memory, (store.add Memory.client content path memory).1 = .ok () →
      ∀ steps : List Memory.Step,
        let session :=
          Session.run Memory.Step.perform steps (store.add Memory.client content path memory).2
        (∀ event ∈ session.1, ¬ Memory.Event.Touches store.bucket path event) →
        .get ∉ session.2.failing →
          store.Returns Memory.client path content session.2 ∧
            session.2.find? store.bucket path = some content) ∧
    ∀ (depot : Local) (system : FileSystem), system.Sound →
      (store.add depot.onDisk content path system).1 = .ok () →
      ∀ actions : List Action,
        let session :=
          Session.run (Action.perform depot.onDisk) actions
            (store.add depot.onDisk content path system).2
        (∀ event ∈ session.1, ∀ bucket key, event.step.Touches event.reply bucket key →
          KeyPath.clean (bucket ++ "/" ++ key) ≠ KeyPath.clean (store.bucket ++ "/" ++ path)) →
          store.Returns depot.onDisk path content session.2 ∧
            ∃ file, depot.objectPath store.bucket path = .ok file ∧
              session.2.openPath file = .ok (.file content) := by
  constructor
  · intro memory added steps session apart working
    have held := Memory.find?_run added steps apart
    exact ⟨Memory.returns_of_find? working held, held⟩
  · intro depot system sound added actions session apart
    obtain ⟨file, located, stored⟩ := Local.stored_of_add sound added
    have holds := Local.holds_run (stored.keeps.sound sound) (Local.locates_of_objectPath located)
      (stored.holds sound) actions apart
    exact ⟨Local.returns_of_holds located holds, file, located, holds.openPath_eq⟩

/-- A signed content goes through a single-part store over both clients, and comes back changed,
with failures switched on and off and other objects put and deleted in between. -/
theorem Store.get_after_add_signedContent :
    ∃ (memory : Memory) (system : FileSystem),
      (Returns ⟨"bkt", "", true⟩ Memory.client "a/./b" ChunkSignature.signedContent memory ∧
        memory.find? "bkt" "a/./b" = some ChunkSignature.signedContent) ∧
      Returns ⟨"bkt", "", true⟩ (Local.onDisk ⟨"root"⟩) "a/./b" ChunkSignature.signedContent
        system ∧
        ∃ file, Local.objectPath ⟨"root"⟩ "bkt" "a/./b" = .ok file ∧
          system.openPath file = .ok (.file ChunkSignature.signedContent) := by
  refine ⟨_, _,
    (get_after_add ⟨"bkt", "", true⟩ ChunkSignature.signedContent "a/./b").1 .empty rfl
      [.failOn .get, .recover .get, .act (.direct (.delete "bkt" "a/b"))] ?_ (by decide),
    (get_after_add ⟨"bkt", "", true⟩ ChunkSignature.signedContent "a/./b").2 ⟨"root"⟩ ⟨.empty, []⟩
      rfl rfl
      [.direct (.put ⟨"bkt", "c", [1], .unknown, octetStream⟩), .direct (.delete "bkt/a" "d")] ?_⟩
  · simp only [Session.run, List.mem_cons, List.not_mem_nil, or_false, forall_eq_or_imp, forall_eq]
    refine ⟨?_, ?_, ?_⟩
    · rintro (⟨content, written⟩ | deleted)
      · exact written
      · exact deleted
    · rintro (⟨content, written⟩ | deleted)
      · exact written
      · exact deleted
    · rintro (⟨content, written⟩ | deleted)
      · exact Action.not_writes_delete _ _ _ _ _ _ written
      · exact absurd ((Action.deletes_delete _ _ _ _ _).mp deleted).2.2 (by decide)
  · simp only [Session.run, List.mem_cons, List.not_mem_nil, or_false, forall_eq_or_imp, forall_eq]
    constructor
    · intro bucket key touched
      rcases touched with ⟨content, written⟩ | deleted
      · obtain ⟨-, ⟨rfl, rfl⟩, -⟩ := (Action.writes_put _ _ _ _ _).mp written
        decide
      · exact (Action.not_deletes_put _ _ _ _ deleted).elim
    · intro bucket key touched
      rcases touched with ⟨content, written⟩ | deleted
      · exact (Action.not_writes_delete _ _ _ _ _ _ written).elim
      · obtain ⟨-, rfl, rfl⟩ := (Action.deletes_delete _ _ _ _ _).mp deleted
        decide

end PipelineDepot
