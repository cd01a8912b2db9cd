import PipelineDepot.Proofs.ChunkSignature.Strip
import PipelineDepot.Proofs.Local.Client
import PipelineDepot.Proofs.Memory.View

/-! # What the settings of a store do not touch

Two stores on one bucket may differ in their base folder and in how they transfer. Taking the same
steps through either of them from the same state leaves the same objects and the same tree: the
client sees the choice of transfers in the sizes that uploads declare and nowhere else, and the
caller sees it in what a fetch is freed of (`Store.Step.Alike`). The base folder is seen by neither.
-/

namespace PipelineDepot

open Blob Files

namespace Session

/-- Two histories of the same steps, with related replies at each of them. -/
inductive Matched {Step : Type 1} {Reply : Step → Type}
    (alike : (step : Step) → Reply step → Reply step → Prop) :
    List (Event Reply) → List (Event Reply) → Prop
  | nil : Matched alike [] []
  | cons {step one other first second} (here : alike step one other)
      (rest : Matched alike first second) :
      Matched alike (⟨step, one⟩ :: first) (⟨step, other⟩ :: second)

/-- Steps that are taken alike in related states give runs that are alike. -/
theorem run_matched {σ τ : Type} {Step : Type 1} {Reply : Step → Type}
    {perform : (step : Step) → StateM σ (Reply step)}
    {other : (step : Step) → StateM τ (Reply step)}
    {alike : (step : Step) → Reply step → Reply step → Prop} {related : σ → τ → Prop}
    (matched : ∀ step first second, related first second →
      alike step (perform step first).1 (other step second).1 ∧
        related (perform step first).2 (other step second).2)
    (steps : List Step) {first : σ} {second : τ} (start : related first second) :
    Matched alike (run perform steps first).1 (run other steps second).1 ∧
      related (run perform steps first).2 (run other steps second).2 := by
  induction steps generalizing first second with
  | nil => exact ⟨.nil, start⟩
  | cons step rest ih =>
      obtain ⟨here, next⟩ := matched step first second start
      obtain ⟨later, final⟩ := ih next
      exact ⟨.cons here later, final⟩

end Session

namespace Store

/-- A step of a session on a store: an operation of the store, a call on the client behind it, or a
change made behind the client. -/
inductive Step (Change : Type) : Type 1
  | operate (request : Request)
  | call (call : Call)
  | change (change : Change)

namespace Step

variable {Change σ : Type}

/-- What a step returns. -/
def Reply : Step Change → Type
  | operate asked => asked.Reply
  | call made => made.Answer
  | change _ => Unit

/-- Takes a step through a store. -/
def perform (client : Client (StateM σ)) (apply : Change → σ → σ) (store : Store) :
    (step : Step Change) → StateM σ step.Reply
  | operate asked => asked.perform store client
  | call made => client.answer made
  | change made => fun state => ((), apply made state)

/-- A fetch fails for the same reason through both stores, or each of them gives the same stored
content in its own way: a store that transfers in a single part gives it without its chunk headers,
any other one as it is. A document is read out of that. Every other step replies the same. -/
def Alike (first second : Store) : (step : Step Change) → step.Reply → step.Reply → Prop
  | operate (.get _), one, other =>
    ∃ stored : Except StoreError Bytes,
      one = stored.map (fun content =>
        if first.singlePart then ChunkSignature.strip content else content) ∧
      other = stored.map fun content =>
        if second.singlePart then ChunkSignature.strip content else content
  | operate (.getDocument codec path), one, other =>
    ∃ stored : Except StoreError Bytes,
      one = decoded codec path (stored.map fun content =>
        if first.singlePart then ChunkSignature.strip content else content) ∧
      other = decoded codec path (stored.map fun content =>
        if second.singlePart then ChunkSignature.strip content else content)
  | _, one, other => one = other

end Step

/-- What a store delivers is what it receives of a content that does not depend on the store. -/
theorem exists_delivered (path : String) (answer : Except BlobError Reader) :
    ∃ stored : Except StoreError Bytes,
      ∀ store : Store, store.delivered path answer = stored.map store.received := by
  cases answer with
  | error cause => exact ⟨.error (.read path cause), fun _ => rfl⟩
  | ok reader =>
      cases drained : reader.drain with
      | error cause =>
          refine ⟨.error (.read path (.io cause)), fun store => ?_⟩
          simp only [delivered, drained]
          rfl
      | ok content =>
          refine ⟨.ok content, fun store => ?_⟩
          simp only [delivered, drained]
          rfl

end Store

/-! ## Clients that do not go by the size of an upload -/

namespace Blob.Client

variable {σ : Type}

/-- From related states the client answers the same and gets to related states, whatever sizes the
uploads declare. -/
structure SizeBlind (client : Client (StateM σ)) (related : σ → σ → Prop) : Prop where
  put : ∀ request size state twin, related state twin →
    (client.put request state).1 = (client.put { request with size := size } twin).1 ∧
      related (client.put request state).2 (client.put { request with size := size } twin).2
  get : ∀ bucket key state twin, related state twin →
    (client.get bucket key state).1 = (client.get bucket key twin).1 ∧
      related (client.get bucket key state).2 (client.get bucket key twin).2
  delete : ∀ bucket key state twin, related state twin →
    (client.delete bucket key state).1 = (client.delete bucket key twin).1 ∧
      related (client.delete bucket key state).2 (client.delete bucket key twin).2

namespace SizeBlind

variable {client : Client (StateM σ)} {related : σ → σ → Prop} (blind : client.SizeBlind related)
  {state twin : σ} (start : related state twin)
include blind start

/-- A client blind to sizes answers every call alike in related states. -/
theorem answer (call : Call) :
    (client.answer call state).1 = (client.answer call twin).1 ∧
      related (client.answer call state).2 (client.answer call twin).2 := by
  cases call with
  | put request => exact blind.put request request.size state twin start
  | get bucket key => exact blind.get bucket key state twin start
  | delete bucket key => exact blind.delete bucket key state twin start

variable (bucket folder otherFolder : String) (single otherSingle : Bool)

theorem add (content : Bytes) (path : String) :
    ((⟨bucket, folder, single⟩ : Store).add client content path state).1 =
        ((⟨bucket, otherFolder, otherSingle⟩ : Store).add client content path twin).1 ∧
      related ((⟨bucket, folder, single⟩ : Store).add client content path state).2
        ((⟨bucket, otherFolder, otherSingle⟩ : Store).add client content path twin).2 := by
  rw [Store.add_apply, Store.add_apply]
  obtain ⟨same, next⟩ := blind.put ((⟨bucket, folder, single⟩ : Store).request content path)
    ((⟨bucket, otherFolder, otherSingle⟩ : Store).uploadSize content) state twin start
  exact ⟨congrArg (Except.mapError (StoreError.write path)) same, next⟩

/-- One operation through either store gives like replies and related states. -/
theorem operate {Change : Type} (request : Store.Request) :
    Store.Step.Alike ⟨bucket, folder, single⟩ ⟨bucket, otherFolder, otherSingle⟩
        (.operate request : Store.Step Change)
        (request.perform ⟨bucket, folder, single⟩ client state).1
        (request.perform ⟨bucket, otherFolder, otherSingle⟩ client twin).1 ∧
      related (request.perform ⟨bucket, folder, single⟩ client state).2
        (request.perform ⟨bucket, otherFolder, otherSingle⟩ client twin).2 := by
  cases request with
  | add content path =>
      exact blind.add start bucket folder otherFolder single otherSingle content path
  | delete path =>
      obtain ⟨same, next⟩ := blind.delete bucket path state twin start
      simp only [Store.Request.perform, Store.delete_apply]
      exact ⟨congrArg (Except.mapError (StoreError.delete path)) same, next⟩
  | addDocument codec value path =>
      simp only [Store.Request.perform, Store.addDocument]
      cases codec.encode value with
      | error cause => exact ⟨rfl, start⟩
      | ok text =>
          exact blind.add start bucket folder otherFolder single otherSingle (.ofText text) path
  | get path =>
      -- The client answers both stores the same; each of them delivers the answer in its own way.
      obtain ⟨same, next⟩ := blind.get bucket path state twin start
      obtain ⟨stored, delivers⟩ := Store.exists_delivered path (client.get bucket path state).1
      simp only [Store.Request.perform, Store.get_apply, ← same]
      exact ⟨⟨stored, delivers _, delivers _⟩, next⟩
  | getDocument codec path =>
      obtain ⟨same, next⟩ := blind.get bucket path state twin start
      obtain ⟨stored, delivers⟩ := Store.exists_delivered path (client.get bucket path state).1
      have fetched (store : Store) (state : σ) :
          (Store.Request.getDocument codec path).perform store client state =
            (Store.decoded codec path (store.delivered path (client.get store.bucket path state).1),
              (client.get store.bucket path state).2) :=
        (store.getDocument_apply client state codec path).trans (by rw [Store.get_apply])
      rw [fetched, fetched]
      simp only [← same]
      exact ⟨⟨stored, congrArg _ (delivers _), congrArg _ (delivers _)⟩, next⟩

/-- Sessions through either store keep in step, as long as the changes behind the client do. -/
theorem run {Change : Type} {apply : Change → σ → σ}
    (changes : ∀ change state twin, related state twin →
      related (apply change state) (apply change twin))
    (steps : List (Store.Step Change)) :
    let one := Session.run (Store.Step.perform client apply ⟨bucket, folder, single⟩) steps state
    let other :=
      Session.run (Store.Step.perform client apply ⟨bucket, otherFolder, otherSingle⟩) steps twin
    Session.Matched
        (Store.Step.Alike ⟨bucket, folder, single⟩ ⟨bucket, otherFolder, otherSingle⟩)
        one.1 other.1 ∧
      related one.2 other.2 := by
  refine Session.run_matched ?_ steps start
  intro step state twin start
  cases step with
  | operate request =>
      exact blind.operate start bucket folder otherFolder single otherSingle request
  | call call => exact blind.answer start call
  | change change => exact ⟨rfl, changes change state twin start⟩

end SizeBlind

end Blob.Client

namespace Blob

/-- The call without the size that it may declare. -/
def Call.unsized : Call → Call
  | put request => .put { request with size := .unknown }
  | get bucket key => .get bucket key
  | delete bucket key => .delete bucket key

namespace Memory

/-- What is done to a client in memory other than calling it. -/
inductive Change
  | seed (bucket key : String) (content : Bytes)
  | failOn (operation : Operation)
  | recover (operation : Operation)

/-- The memory after the change. -/
def Change.apply : Change → Memory → Memory
  | seed bucket key content, memory => memory.insert bucket key content
  | failOn operation, memory => memory.failOn operation
  | recover operation, memory => memory.recover operation

/-- The same objects, the same operations set to fail, and the same calls but for the sizes that
the uploads declared. -/
structure EqualButSizes (memory twin : Memory) : Prop where
  objects : memory.objects = twin.objects
  calls : memory.calls.map Call.unsized = twin.calls.map Call.unsized
  failing : memory.failing = twin.failing

namespace EqualButSizes

variable {memory twin : Memory}

theorem refl (memory : Memory) : EqualButSizes memory memory := ⟨rfl, rfl, rfl⟩

theorem record (same : EqualButSizes memory twin) (call other : Call)
    (calls : call.unsized = other.unsized) :
    EqualButSizes (memory.record call) (twin.record other) := by
  refine ⟨same.objects, ?_, same.failing⟩
  simp only [Memory.record, List.map_append, List.map_cons, List.map_nil, same.calls, calls]

theorem injected? (same : EqualButSizes memory twin) (operation : Operation)
    (bucket key : String) :
    memory.injected? operation bucket key = twin.injected? operation bucket key := by
  simp only [Memory.injected?, same.failing]

theorem find? (same : EqualButSizes memory twin) (bucket key : String) :
    memory.find? bucket key = twin.find? bucket key := by
  simp only [Memory.find?, same.objects]

theorem insert (same : EqualButSizes memory twin) (bucket key : String) (content : Bytes) :
    EqualButSizes (memory.insert bucket key content) (twin.insert bucket key content) := by
  refine ⟨?_, same.calls, same.failing⟩
  simp only [Memory.insert, same.objects]

theorem erase (same : EqualButSizes memory twin) (bucket key : String) :
    EqualButSizes (memory.erase bucket key) (twin.erase bucket key) := by
  refine ⟨?_, same.calls, same.failing⟩
  simp only [Memory.erase, same.objects]

/-- Memories that differ in sizes only are changed alike. -/
theorem change (same : EqualButSizes memory twin) (made : Change) :
    EqualButSizes (made.apply memory) (made.apply twin) := by
  cases made with
  | seed bucket key content => exact same.insert bucket key content
  | failOn operation | recover operation =>
      refine ⟨same.objects, same.calls, ?_⟩
      simp only [Change.apply, Memory.failOn, Memory.recover, same.failing]

end EqualButSizes

theorem sizeBlind : client.SizeBlind EqualButSizes where
  put request size memory twin same := by
    have recorded := same.record (.put request) (.put { request with size := size }) rfl
    simp only [client, put, recorded.injected?]
    split
    · exact ⟨rfl, recorded⟩
    · exact ⟨rfl, recorded.insert _ _ _⟩
  get bucket key memory twin same := by
    have recorded := same.record (.get bucket key) _ rfl
    simp only [client, get, recorded.injected?, recorded.find?]
    split
    · exact ⟨rfl, recorded⟩
    · split <;> exact ⟨rfl, recorded⟩
  delete bucket key memory twin same := by
    have recorded := same.record (.delete bucket key) _ rfl
    simp only [client, delete, recorded.injected?]
    split
    · exact ⟨rfl, recorded⟩
    · exact ⟨rfl, recorded.erase _ _⟩

end Memory

/-- A directory does not look at the size of an upload. -/
theorem Local.sizeBlind (depot : Local) : depot.onDisk.SizeBlind Eq where
  put _ _ _ _ same := by
    subst same
    exact ⟨rfl, rfl⟩
  get _ _ _ _ same := by
    subst same
    exact ⟨rfl, rfl⟩
  delete _ _ _ _ same := by
    subst same
    exact ⟨rfl, rfl⟩

end Blob

/-- No operation reads the base folder. -/
theorem Store.Request.perform_baseFolder {m : Type → Type} [Monad m] (client : Client m)
    (bucket folder otherFolder : String) (single : Bool) (request : Store.Request) :
    request.perform ⟨bucket, folder, single⟩ client =
      request.perform ⟨bucket, otherFolder, single⟩ client := by
  cases request <;> rfl

/-- **The settings of a store do not show in what is stored.** Sessions with the same steps through
two stores on one bucket match, whatever their base folders and their transfers: a single-part
store gets without its chunk headers what the other one gets as it is. In memory they leave the same
objects, and the same calls but for the declared sizes; in a directory they leave the same tree. Two
stores that differ in the base folder alone act as one over every client. -/
theorem Store.settings_unseen (bucket folder otherFolder : String) (single otherSingle : Bool) :
    let one : Store := ⟨bucket, folder, single⟩
    let other : Store := ⟨bucket, otherFolder, otherSingle⟩
    (∀ (steps : List (Store.Step Memory.Change)) (memory : Memory),
      let first := Session.run (Step.perform Memory.client Memory.Change.apply one) steps memory
      let second := Session.run (Step.perform Memory.client Memory.Change.apply other) steps memory
      Session.Matched (Step.Alike one other) first.1 second.1 ∧
        first.2.EqualButSizes second.2) ∧
    (∀ (depot : Local) (steps : List (Store.Step (FileSystem → FileSystem)))
        (system : FileSystem),
      let first := Session.run (Step.perform depot.onDisk id one) steps system
      let second := Session.run (Step.perform depot.onDisk id other) steps system
      Session.Matched (Step.Alike one other) first.1 second.1 ∧ first.2 = second.2) ∧
    ∀ (m : Type → Type) [Monad m] (client : Client m) (request : Store.Request),
      request.perform one client = request.perform ⟨bucket, otherFolder, single⟩ client := by
  refine ⟨?_, ?_, ?_⟩
  · intro steps memory
    exact Memory.sizeBlind.run (.refl memory) bucket folder otherFolder single otherSingle
      (fun change _ _ same => same.change change) steps
  · intro depot steps system
    refine depot.sizeBlind.run rfl bucket folder otherFolder single otherSingle ?_ steps
    intro change state twin same
    rw [same]
  · intro m _ client request
    exact request.perform_baseFolder client bucket folder otherFolder single

/-- A signed content comes back without its header through the single-part store alone. -/
example :
    let content := ChunkSignature.signedContent
    let through (single : Bool) :=
      Session.run (Store.Step.perform Memory.client Memory.Change.apply ⟨"b", "", single⟩)
        [.operate (.add content "a"), .operate (.get "a")] .empty
    (through true).1 =
        [⟨.operate (.add content "a"), .ok ()⟩, ⟨.operate (.get "a"), .ok [255]⟩] ∧
      (through false).1 =
        [⟨.operate (.add content "a"), .ok ()⟩, ⟨.operate (.get "a"), .ok content⟩] ∧
      (through true).2.objects = (through false).2.objects := by
  cbv
  exact ⟨rfl, rfl, trivial⟩

end PipelineDepot
