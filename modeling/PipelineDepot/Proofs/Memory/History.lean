import PipelineDepot.Proofs.ChunkSignature.Strip
import PipelineDepot.Proofs.Memory.View

/-! # A client in memory and its history

A session on a client in memory mixes actions, through any stores and of any document types,
with three things done behind the client: an object is put in place directly, and an operation
is set to fail or let succeed again. The history of a session that starts with nothing explains
the client completely: which objects it holds, which operations fail, which calls it has
recorded, and what every step returned (`Memory.run_explained`).

The history is read declaratively. The last write of an address is a write with no write or
deletion of the address behind it, and an operation is set to fail when it was set to and has
not been let succeed since.
-/

namespace PipelineDepot.Blob.Memory

/-- A step of a session on a client in memory. -/
inductive Step : Type 1
  | act (action : Action)
  /-- Puts an object in place past the operations of the client. -/
  | seed (bucket key : String) (content : Bytes)
  | failOn (operation : Operation)
  | recover (operation : Operation)

namespace Step

/-- What a step returns. -/
def Reply : Step → Type
  | act action => action.Reply
  | seed _ _ _ | failOn _ | recover _ => Unit

/-- Takes a step. -/
def perform : (step : Step) → StateM Memory step.Reply
  | act action => action.perform client
  | seed bucket key content => fun memory => ((), memory.insert bucket key content)
  | failOn operation => fun memory => ((), memory.failOn operation)
  | recover operation => fun memory => ((), memory.recover operation)

/-- The call a step makes on the client. -/
def call? : Step → Option Call
  | act action => action.call?
  | seed _ _ _ | failOn _ | recover _ => none

end Step

/-- A step with what it returned. -/
abbrev Event := Session.Event Step.Reply

namespace Event

/-- The event stored these bytes under this bucket and key: a put that succeeded, or a seed. -/
def Writes (bucket key : String) (content : Bytes) : Event → Prop
  | ⟨.act action, reply⟩ => action.Writes reply bucket key content
  | ⟨.seed named keyed stored, _⟩ => (named = bucket ∧ keyed = key) ∧ stored = content
  | ⟨.failOn _, _⟩ | ⟨.recover _, _⟩ => False

/-- The event took away what stood under this bucket and key. -/
def Deletes (bucket key : String) : Event → Prop
  | ⟨.act action, reply⟩ => action.Deletes reply bucket key
  | ⟨.seed _ _ _, _⟩ | ⟨.failOn _, _⟩ | ⟨.recover _, _⟩ => False

/-- The event wrote or deleted the object under this bucket and key. -/
def Touches (bucket key : String) (event : Event) : Prop :=
  (∃ content, event.Writes bucket key content) ∨ event.Deletes bucket key

end Event

/-- These bytes are the last write of the address, and no deletion came after it. -/
def LastWrite (history : List Event) (bucket key : String) (content : Bytes) : Prop :=
  Session.Latest (Event.Writes bucket key content) (Event.Touches bucket key) history

/-- The operation was set to fail and has not been let succeed since. -/
def SetToFail (history : List Event) (operation : Operation) : Prop :=
  Session.Latest (fun event => event.step = .failOn operation)
    (fun event => event.step = .recover operation) history

/-- What putting or deleting answers after a history. -/
inductive Accepts (history : List Event) (operation : Operation) (bucket key : String) :
    Except BlobError Unit → Prop
  | failed (set : SetToFail history operation) :
      Accepts history operation bucket key (.error (injected operation bucket key))
  | done (clear : ¬ SetToFail history operation) : Accepts history operation bucket key (.ok ())

/-- What fetching an object gives after a history. -/
inductive Fetches (history : List Event) (bucket key : String) : Except BlobError Bytes → Prop
  | failed (set : SetToFail history .get) :
      Fetches history bucket key (.error (injected .get bucket key))
  | missing (clear : ¬ SetToFail history .get)
      (absent : ∀ content, ¬ LastWrite history bucket key content) :
      Fetches history bucket key (.error (.notFound bucket key))
  | found (clear : ¬ SetToFail history .get) {content : Bytes}
      (held : LastWrite history bucket key content) : Fetches history bucket key (.ok content)

/-- A step returned what its history asks for. A store passes the error of the client on with the
path, frees what it fetched of chunk headers when it transfers in a single part, and reads a
document out of that. -/
def Answered (history : List Event) : Event → Prop
  | ⟨.act (.direct (.put request)), reply⟩ =>
    Accepts history .put request.bucket request.key reply
  | ⟨.act (.direct (.delete bucket key)), reply⟩ => Accepts history .delete bucket key reply
  | ⟨.act (.direct (.get bucket key)), reply⟩ =>
    ∃ outcome, Fetches history bucket key outcome ∧ reply = outcome.map .ofBytes
  | ⟨.act (.through store (.add _ path)), reply⟩ =>
    ∃ outcome, Accepts history .put store.bucket path outcome ∧
      reply = outcome.mapError (.write path)
  | ⟨.act (.through store (.delete path)), reply⟩ =>
    ∃ outcome, Accepts history .delete store.bucket path outcome ∧
      reply = outcome.mapError (.delete path)
  | ⟨.act (.through store (.get path)), reply⟩ =>
    ∃ outcome, Fetches history store.bucket path outcome ∧
      reply = (outcome.mapError (.read path)).map fun content =>
        if store.singlePart then ChunkSignature.strip content else content
  | ⟨.act (.through store (.addDocument codec value path)), reply⟩ =>
    match codec.encode value with
    | .error cause => reply = .error (.encode path cause)
    | .ok _ => ∃ outcome, Accepts history .put store.bucket path outcome ∧
        reply = outcome.mapError (.write path)
  | ⟨.act (.through store (.getDocument codec path)), reply⟩ =>
    ∃ outcome, Fetches history store.bucket path outcome ∧
      reply = Store.decoded codec path ((outcome.mapError (.read path)).map fun content =>
        if store.singlePart then ChunkSignature.strip content else content)
  | ⟨.seed _ _ _, _⟩ | ⟨.failOn _, _⟩ | ⟨.recover _, _⟩ => True

/-- A history explains a client: its objects are the last writes, its failing operations are
those set to fail, its record lists the calls, and every step returned what the history before
it asks for. -/
structure Explains (history : List Event) (memory : Memory) : Prop where
  held : ∀ bucket key content,
    memory.find? bucket key = some content ↔ LastWrite history bucket key content
  failing : ∀ operation, operation ∈ memory.failing ↔ SetToFail history operation
  recorded : memory.calls = history.filterMap fun event => event.step.call?
  answered : ∀ before event after, history = before ++ event :: after → Answered before event

section Step

variable (step : Step) (memory : Memory) (bucket key : String) (content : Bytes)

/-- The event of a step taken on the memory. -/
private abbrev eventOf : Event := Session.event Step.perform step memory

/-- After a step an object stands at an address if the step has written it, or if it stood there
before and the step has not touched it. -/
theorem Step.find?_perform :
    (step.perform memory).2.find? bucket key = some content ↔
      (eventOf step memory).Writes bucket key content ∨
        (memory.find? bucket key = some content ∧ ¬ (eventOf step memory).Touches bucket key) := by
  cases step with
  | act action => exact memory.find?_perform bucket key content action
  | seed named keyed stored =>
      change (memory.insert named keyed stored).find? bucket key = _ ↔ _
      simp only [find?_insert, Event.Touches, Event.Writes, Event.Deletes, Session.event, or_false]
      by_cases same : named = bucket ∧ keyed = key
      · simp [same]
      · simp only [same, ↓reduceIte, false_and, exists_false, false_or, not_false_eq_true, and_true]
  | failOn operation | recover operation =>
      simp only [Step.perform, find?_failOn, find?_recover, Event.Touches, Event.Writes,
        Event.Deletes, Session.event, exists_false, or_false, false_or, not_false_eq_true, and_true]

theorem Step.mem_failing_perform (operation : Operation) :
    operation ∈ (step.perform memory).2.failing ↔
      step = .failOn operation ∨ (operation ∈ memory.failing ∧ step ≠ .recover operation) := by
  cases step with
  | act action =>
      change operation ∈ (action.perform client memory).2.failing ↔ _
      simp only [failing_perform, reduceCtorEq, ne_eq, not_false_eq_true, and_true, false_or]
  | seed named keyed stored =>
      simp only [Step.perform, failing_insert, reduceCtorEq, ne_eq, not_false_eq_true, and_true,
        false_or]
  | failOn other =>
      simp only [Step.perform, mem_failing_failOn, Step.failOn.injEq, reduceCtorEq, ne_eq,
        not_false_eq_true, and_true, eq_comm]
  | recover other =>
      simp only [Step.perform, mem_failing_recover, Step.recover.injEq, reduceCtorEq, ne_eq,
        false_or, eq_comm]

theorem Step.calls_perform : (step.perform memory).2.calls = memory.calls ++ step.call?.toList := by
  cases step with
  | act action => exact memory.calls_perform action
  | seed named keyed stored | failOn operation | recover operation =>
      simp only [Step.perform, calls_insert, calls_failOn, calls_recover, Step.call?,
        Option.toList_none, List.append_nil]

end Step

namespace Explains

variable {history : List Event} {memory : Memory} (explains : Explains history memory)
  (bucket key : String)

include explains

/-- Putting and deleting fail just when the history has set them to. -/
theorem accepts (operation : Operation) :
    Accepts history operation bucket key (memory.accept operation bucket key) := by
  by_cases set : operation ∈ memory.failing
  · simp only [accept, set, ↓reduceIte]
    exact .failed ((explains.failing operation).mp set)
  · simp only [accept, set, ↓reduceIte]
    exact .done fun failing => set ((explains.failing operation).mpr failing)

/-- What is fetched is what the history says was written last. -/
theorem fetches : Fetches history bucket key (memory.fetch bucket key) := by
  by_cases set : Operation.get ∈ memory.failing
  · simp only [fetch, set, ↓reduceIte]
    exact .failed ((explains.failing .get).mp set)
  · have clear : ¬ SetToFail history .get := by
      intro failing
      exact set ((explains.failing .get).mpr failing)
    simp only [fetch, set, ↓reduceIte]
    cases stored : memory.find? bucket key with
    | none =>
        apply Fetches.missing clear
        intro content held
        have present := (explains.held bucket key content).mpr held
        simp only [stored, reduceCtorEq] at present
    | some content => exact .found clear ((explains.held bucket key content).mp stored)

/-- A call made on the client itself is answered from the history. -/
theorem answered_direct (call : Call) :
    Answered history (eventOf (.act (.direct call)) memory) := by
  cases call with
  | put request =>
      change Accepts history .put request.bucket request.key (memory.put request).1
      rw [put_eq]
      exact explains.accepts request.bucket request.key .put
  | get bucket key =>
      change ∃ outcome, Fetches history bucket key outcome ∧
        (memory.get bucket key).1 = outcome.map .ofBytes
      rw [get_eq]
      exact ⟨memory.fetch bucket key, explains.fetches bucket key, rfl⟩
  | delete bucket key =>
      change Accepts history .delete bucket key (memory.delete bucket key).1
      rw [delete_eq]
      exact explains.accepts bucket key .delete

/-- An operation of a store is answered from the history, freed of chunk headers where the store
transfers in a single part. -/
theorem answered_through (store : Store) (request : Store.Request) :
    Answered history (eventOf (.act (.through store request)) memory) := by
  have stored (content : Bytes) (path : String) :
      (client.put (store.request content path) memory).1 = memory.accept .put store.bucket path :=
    congrArg Prod.fst (memory.put_eq _)
  have deleted (path : String) :
      (client.delete store.bucket path memory).1 = memory.accept .delete store.bucket path :=
    congrArg Prod.fst (memory.delete_eq _ _)
  have fetched (path : String) :
      store.delivered path (client.get store.bucket path memory).1 =
        ((memory.fetch store.bucket path).mapError (.read path)).map store.received := by
    rw [← store.delivered_map_ofBytes]
    exact congrArg (store.delivered path ∘ Prod.fst) (memory.get_eq _ _)
  have added (content : Bytes) (path : String) :
      (store.add client content path memory).1 =
        (memory.accept .put store.bucket path).mapError (.write path) := by
    rw [store.add_apply, stored]
  cases request with
  | add content path => exact ⟨_, explains.accepts store.bucket path .put, added content path⟩
  | delete path =>
      refine ⟨_, explains.accepts store.bucket path .delete, ?_⟩
      change (store.delete client path memory).1 = _
      rw [store.delete_apply, deleted]
      rfl
  | get path =>
      refine ⟨_, explains.fetches store.bucket path, ?_⟩
      change (store.get client path memory).1 = _
      rw [store.get_apply, fetched]
      rfl
  | getDocument codec path =>
      refine ⟨_, explains.fetches store.bucket path, ?_⟩
      change (store.getDocument client codec path memory).1 = _
      rw [store.getDocument_apply, store.get_apply, fetched]
      rfl
  | addDocument codec value path =>
      change match codec.encode value with
        | .error cause => (store.addDocument client codec value path memory).1 =
            .error (.encode path cause)
        | .ok _ => ∃ outcome, Accepts history .put store.bucket path outcome ∧
            (store.addDocument client codec value path memory).1 = outcome.mapError (.write path)
      unfold Store.addDocument
      cases codec.encode value with
      | error cause => rfl
      | ok text => exact ⟨_, explains.accepts store.bucket path .put, added (.ofText text) path⟩

/-- A client explained by its history answers the next step as the history asks for. -/
theorem answered_next (step : Step) : Answered history (eventOf step memory) := by
  cases step with
  | seed _ _ _ | failOn _ | recover _ => trivial
  | act action =>
      cases action with
      | direct call => exact explains.answered_direct call
      | through store request => exact explains.answered_through store request

/-- A step extends a history that explains the memory to one that explains what it leaves. -/
theorem step (step : Step) :
    Explains (history ++ [eventOf step memory]) (step.perform memory).2 where
  held bucket key content := by
    rw [Step.find?_perform, explains.held]
    exact (Session.latest_append_singleton _ _ history _).symm
  failing operation := by
    rw [Step.mem_failing_perform, explains.failing]
    exact (Session.latest_append_singleton (fun event : Event => event.step = .failOn operation)
      (fun event => event.step = .recover operation) history (eventOf step memory)).symm
  recorded := by
    rw [Step.calls_perform, explains.recorded, List.filterMap_append]
    cases called : step.call? <;> simp [Session.event, called]
  answered before event after split := by
    rcases List.eq_nil_or_concat after with rfl | ⟨front, last, rfl⟩
    · obtain ⟨rfl, same⟩ := List.append_inj' split rfl
      obtain rfl := List.singleton_inj.mp same
      exact explains.answered_next step
    · rw [List.concat_eq_append, ← List.cons_append, ← List.append_assoc] at split
      obtain ⟨rfl, -⟩ := List.append_inj' split rfl
      exact explains.answered before event front rfl

end Explains

/-- No history explains a client that holds nothing and was never called. -/
theorem explains_empty : Explains [] empty where
  held bucket key content := by
    simp only [find?_empty, reduceCtorEq, false_iff]
    exact Session.not_latest_nil _ _
  failing operation := by
    simp only [failing_empty, List.not_mem_nil, false_iff]
    exact Session.not_latest_nil _ _
  recorded := rfl
  answered before event after split := by simp at split

/-- **The history explains the client.** After any session that starts with nothing, mixing
operations of any stores, direct calls, seeds and failures switched on and off, the object at an
address is the last write of it; an operation fails exactly when it was set to and has not been
let succeed since; the record lists the calls in order; and every step returned what the history
before it asks for. -/
theorem run_explained (steps : List Step) :
    Explains (Session.run Step.perform steps empty).1 (Session.run Step.perform steps empty).2 :=
  Session.run_invariant (fun _ _ step explains => explains.step step) steps explains_empty

/-- A signed content is held as it was given, and a single-part store gets it without its header. -/
example :
    let store : Store := ⟨"b", "", true⟩
    let content := ChunkSignature.signedContent
    let session := Session.run Step.perform
      [.act (.through store (.add content "a")), .act (.through store (.get "a"))] empty
    session.2.find? "b" "a" = some content ∧
      session.1 = [⟨.act (.through store (.add content "a")), .ok ()⟩,
        ⟨.act (.through store (.get "a")), .ok [255]⟩] := by
  cbv

end PipelineDepot.Blob.Memory
