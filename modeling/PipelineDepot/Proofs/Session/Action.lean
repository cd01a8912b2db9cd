import PipelineDepot.Blob.Memory
import PipelineDepot.Store.Basic

/-! # Actions on a client

An action is an operation of some store, or a call made on the client behind it. Different
actions may go through different stores and may read and write documents of different types.

An action comes to at most one call, which `Action.call?` lists: a store puts the content it is
given, or the text of the document, under the path in its bucket. The plan of an action
(`Action.plan`) makes this call and says what becomes of the answer; performing the action is
running the plan, over every client in every lawful monad (`Action.perform_eq_run`). What a session
does to a client is therefore decided by the calls alone.
-/

namespace PipelineDepot

open Blob

namespace Blob

/-- What a call gives when it succeeds. -/
def Call.Value : Call → Type
  | put _ | delete _ _ => Unit
  | get _ _ => Reader

/-- What a client answers to a call. -/
abbrev Call.Answer (call : Call) : Type := Except BlobError call.Value

/-- Makes a call on a client. -/
def Client.answer {m : Type → Type} (client : Client m) : (call : Call) → m call.Answer
  | .put request => client.put request
  | .get bucket key => client.get bucket key
  | .delete bucket key => client.delete bucket key

end Blob

namespace Store

/-- An operation of a store with what is given to it. -/
inductive Request : Type 1
  | add (content : Bytes) (path : String)
  | get (path : String)
  | delete (path : String)
  | addDocument {α : Type} (codec : Codec α) (value : α) (path : String)
  | getDocument {α : Type} (codec : Codec α) (path : String)

/-- The upload of a content through a store. -/
def upload (store : Store) (content : Bytes) (path : String) : PutRequest where
  bucket := store.bucket
  key := path
  body := content
  size := if store.singlePart then .exact (UInt64.ofNat content.length) else .unknown
  contentType := "application/octet-stream"

namespace Request

/-- What the operation gives when it succeeds. -/
def Value : Request → Type
  | add _ _ | delete _ | addDocument _ _ _ => Unit
  | get _ => Bytes
  | @getDocument α _ _ => α

/-- What the operation returns. -/
abbrev Reply (request : Request) : Type := Except StoreError request.Value

/-- The path the operation is about. -/
def path : Request → String
  | add _ path => path
  | get path => path
  | delete path => path
  | addDocument _ _ path => path
  | getDocument _ path => path

/-- The call of the operation; a document without a text has none. -/
def call? (store : Store) : Request → Option Call
  | add content path => some (.put (store.upload content path))
  | get path | getDocument _ path => some (.get store.bucket path)
  | delete path => some (.delete store.bucket path)
  | addDocument codec value path =>
    match codec.encode value with
    | .error _ => none
    | .ok text => some (.put (store.upload (.ofText text) path))

/-- Carries the operation out. -/
def perform {m : Type → Type} [Monad m] (store : Store) (client : Client m) :
    (request : Request) → m request.Reply
  | .add content path => store.add client content path
  | .get path => store.get client path
  | .delete path => store.delete client path
  | .addDocument codec value path => store.addDocument client codec value path
  | .getDocument codec path => store.getDocument client codec path

end Request

end Store

/-- What an action comes to. -/
inductive Plan (Reply : Type)
  /-- A reply without any call. -/
  | settled (reply : Reply)
  /-- One call, and the reply made of its answer. -/
  | calling (call : Call) (finish : call.Answer → Reply)

namespace Plan

variable {Reply : Type}

/-- The call of the plan. -/
def call? : Plan Reply → Option Call
  | settled _ => none
  | calling call _ => some call

/-- Carries the plan out. -/
def run {m : Type → Type} [Monad m] (client : Client m) : Plan Reply → m Reply
  | settled reply => return reply
  | calling call finish => return finish (← client.answer call)

end Plan

namespace Store

/-- What a fetch gives the caller of the store. -/
def delivered (store : Store) (path : String) : Except BlobError Reader → Except StoreError Bytes
  | .error cause => .error (.read path cause)
  | .ok reader =>
    match reader.drain with
    | .error cause => .error (.read path (.io cause))
    | .ok content => .ok (store.received content)

/-- A whole content reaches the caller as the store receives it. -/
theorem delivered_map_ofBytes (store : Store) (path : String) (outcome : Except BlobError Bytes) :
    store.delivered path (outcome.map .ofBytes) =
      (outcome.mapError (.read path)).map store.received := by
  cases outcome with
  | error cause => rfl
  | ok content =>
      have whole : (Reader.ofBytes content).drain = .ok content := by
        simp only [Reader.ofBytes, Reader.drain, List.flatten_cons, List.flatten_nil,
          List.append_nil]
      change store.delivered path (.ok (.ofBytes content)) = .ok (store.received content)
      simp only [delivered, whole]

/-- What a fetched document gives the caller of the store. -/
def decoded {α : Type} (codec : Codec α) (path : String) :
    Except StoreError Bytes → Except StoreError α
  | .error error => .error error
  | .ok content =>
    match codec.decode content with
    | .error cause => .error (.decode path cause)
    | .ok value => .ok value

/-- The plan of an operation. -/
def plan (store : Store) : (request : Request) → Plan request.Reply
  | .add content path =>
    .calling (.put (store.request content path)) (Except.mapError (.write path))
  | .get path => .calling (.get store.bucket path) (store.delivered path)
  | .delete path => .calling (.delete store.bucket path) (Except.mapError (.delete path))
  | .addDocument codec value path =>
    match codec.encode value with
    | .error cause => .settled (.error (.encode path cause))
    | .ok text =>
      .calling (.put (store.request (.ofText text) path)) (Except.mapError (.write path))
  | .getDocument codec path =>
    .calling (.get store.bucket path) fun answer => decoded codec path (store.delivered path answer)

/-- The plan of an operation makes the call of the operation. -/
theorem call?_plan (store : Store) (request : Request) :
    (store.plan request).call? = request.call? store := by
  cases request with
  | add content path | get path | delete path | getDocument codec path => rfl
  | addDocument codec value path =>
      simp only [plan, Request.call?]
      cases codec.encode value <;> rfl

/-- The call of an operation is about the bucket of the store and the path of the operation. -/
theorem address_of_plan {store : Store} {request : Request} {call : Call}
    {finish : call.Answer → request.Reply} (planned : store.plan request = .calling call finish) :
    call.address = (store.bucket, request.path) := by
  cases request with
  | add content path | get path | delete path | getDocument codec path =>
      cases planned
      rfl
  | addDocument codec value path =>
      simp only [plan] at planned
      split at planned
      next => cases planned
      next =>
        cases planned
        rfl

variable {m : Type → Type} [Monad m] (store : Store) (client : Client m)

theorem add_eq (content : Bytes) (path : String) :
    store.add client content path =
      do return Except.mapError (.write path) (← client.put (store.request content path)) := by
  unfold add
  apply bind_congr
  intro answer
  cases answer <;> rfl

theorem delete_eq (path : String) :
    store.delete client path =
      do return Except.mapError (.delete path) (← client.delete store.bucket path) := by
  unfold delete
  apply bind_congr
  intro answer
  cases answer <;> rfl

variable [LawfulMonad m]

theorem get_eq (path : String) :
    store.get client path =
      do return store.delivered path (← client.get store.bucket path) := by
  simp only [get, Client.read, bind_assoc]
  apply bind_congr
  intro answer
  cases answer with
  | error cause => simp only [pure_bind, delivered]
  | ok reader =>
      simp only [delivered]
      cases reader.drain <;> simp only [pure_bind]

theorem getDocument_eq {α : Type} (codec : Codec α) (path : String) :
    store.getDocument client codec path =
      do return decoded codec path (store.delivered path (← client.get store.bucket path)) := by
  simp only [getDocument, get_eq, bind_assoc, pure_bind]
  apply bind_congr
  intro answer
  cases store.delivered path answer with
  | error error => rfl
  | ok content =>
      simp only [decoded]
      cases codec.decode content <;> rfl

section State

variable {σ : Type} (client : Client (StateM σ)) (state : σ)

/-- From a state, an addition is a put of the request, with the path in its error. -/
theorem add_apply (content : Bytes) (path : String) :
    store.add client content path state =
      ((client.put (store.request content path) state).1.mapError (.write path),
        (client.put (store.request content path) state).2) := by
  rw [add_eq]
  rfl

/-- From a state, a get is a get of the client, delivered. -/
theorem get_apply (path : String) :
    store.get client path state =
      (store.delivered path (client.get store.bucket path state).1,
        (client.get store.bucket path state).2) := by
  rw [get_eq]
  rfl

theorem delete_apply (path : String) :
    store.delete client path state =
      ((client.delete store.bucket path state).1.mapError (.delete path),
        (client.delete store.bucket path state).2) := by
  rw [delete_eq]
  rfl

/-- From a state, getting a document is getting its object and reading it. -/
theorem getDocument_apply {α : Type} (codec : Codec α) (path : String) :
    store.getDocument client codec path state =
      (decoded codec path (store.get client path state).1, (store.get client path state).2) := by
  rw [getDocument_eq, get_eq]
  rfl

end State

/-- An operation is its plan carried out. -/
theorem Request.perform_eq_run (request : Request) :
    request.perform store client = (store.plan request).run client := by
  cases request with
  | add content path => exact store.add_eq client content path
  | get path => exact store.get_eq client path
  | delete path => exact store.delete_eq client path
  | addDocument codec value path =>
      simp only [perform, Store.addDocument, plan]
      cases codec.encode value with
      | error cause => rfl
      | ok text => exact store.add_eq client (.ofText text) path
  | getDocument codec path => exact store.getDocument_eq client codec path

end Store

/-- Something done to a client. -/
inductive Action : Type 1
  | through (store : Store) (request : Store.Request)
  | direct (call : Call)

namespace Action

/-- What an action gives when it succeeds. -/
def Value : Action → Type
  | through _ request => request.Value
  | direct call => call.Value

/-- Why an action fails. -/
def Fault : Action → Type
  | through _ _ => StoreError
  | direct _ => BlobError

/-- What an action returns. -/
abbrev Reply (action : Action) : Type := Except action.Fault action.Value

/-- Carries an action out. -/
def perform {m : Type → Type} [Monad m] (client : Client m) : (action : Action) → m action.Reply
  | through store request => request.perform store client
  | direct call => client.answer call

/-- The plan of an action. -/
def plan : (action : Action) → Plan action.Reply
  | through store request => store.plan request
  | direct call => .calling call id

/-- The call an action makes. -/
def call? : Action → Option Call
  | through store request => request.call? store
  | direct call => some call

/-- The plan of an action makes the call of the action. -/
theorem call?_plan (action : Action) : action.plan.call? = action.call? := by
  cases action with
  | through store request => exact store.call?_plan request
  | direct call => rfl

/-- An action is its plan carried out. -/
theorem perform_eq_run {m : Type → Type} [Monad m] [LawfulMonad m] (client : Client m)
    (action : Action) : action.perform client = action.plan.run client := by
  cases action with
  | through store request => exact request.perform_eq_run store client
  | direct call => exact (id_map (client.answer call)).symm.trans (map_eq_pure_bind _ _)

/-- An action without a call leaves the state alone, any other one leaves what its call leaves. -/
theorem perform_snd {σ : Type} (client : Client (StateM σ)) (action : Action) (state : σ) :
    (action.perform client state).2 =
      match action.call? with
      | none => state
      | some call => (client.answer call state).2 := by
  rw [perform_eq_run, ← call?_plan]
  cases action.plan <;> rfl

/-- What holds and outlives every call outlives every action. -/
theorem perform_invariant {σ : Type} {client : Client (StateM σ)} {motive : σ → Prop} {state : σ}
    (kept : ∀ call, motive (client.answer call state).2) (holds : motive state)
    (action : Action) : motive (action.perform client state).2 := by
  rw [perform_snd]
  cases action.call? with
  | none => exact holds
  | some call => exact kept call

private theorem isOk_mapError {ε ε' α : Type} (wrap : ε → ε') (answer : Except ε α) :
    (answer.mapError wrap).isOk = answer.isOk := by
  cases answer <;> rfl

/-- An action that puts or deletes succeeds exactly when its call does. -/
theorem isOk_perform {σ : Type} (client : Client (StateM σ)) {action : Action} {call : Call}
    (made : action.call? = some call) (changes : call.operation ≠ .get) (state : σ) :
    (action.perform client state).1.isOk = (client.answer call state).1.isOk := by
  rw [perform_eq_run]
  cases action with
  | direct other =>
      obtain rfl : other = call := Option.some.inj made
      rfl
  | through store request =>
      cases request with
      | add content path =>
          obtain rfl : Call.put (store.upload content path) = call := Option.some.inj made
          exact isOk_mapError _ _
      | delete path =>
          obtain rfl : Call.delete store.bucket path = call := Option.some.inj made
          exact isOk_mapError _ _
      | get path | getDocument codec path =>
          obtain rfl : Call.get store.bucket path = call := Option.some.inj made
          exact absurd rfl changes
      | addDocument codec value path =>
          simp only [call?, Store.Request.call?, plan, Store.plan] at made ⊢
          cases encoded : codec.encode value with
          | error cause => simp only [encoded, reduceCtorEq] at made
          | ok text =>
              simp only [encoded, Option.some.injEq] at made ⊢
              subst made
              exact isOk_mapError _ _

end Action

end PipelineDepot
