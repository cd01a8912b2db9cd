import PipelineDepot.Proofs.Session.Action

/-! # Operations in stages

An operation under way is about to call its client, reads a stream piece by piece, has local work
left, or is finished (`Stage`). Only the call touches the client; every other step is taken
without it (`Stage.advance?`). Carrying the stages of an action out over a client is performing
the action, over every client in every lawful monad (`Action.carryOut_stage`).

A stage behind the call already has its reply (`Stage.reply?`), whatever happens to the client
from there on.
-/

namespace PipelineDepot

open Blob

/-- How far an operation has come. -/
inductive Stage (Reply : Type)
  /-- The client is still to be called. -/
  | calling (call : Call) (resume : call.Answer → Stage Reply)
  /-- A stream is being read, and `content` has come out of it. -/
  | reading (reader : Reader) (content : Bytes) (resume : Except FileError Bytes → Stage Reply)
  | working (next : Stage Reply)
  | finished (reply : Reply)

namespace Stage

variable {Reply : Type}

/-- Carries an operation out from here to its end. -/
def carryOut {m : Type → Type} [Monad m] (client : Client m) : Stage Reply → m Reply
  | calling call resume => do
    let answer ← client.answer call
    carryOut client (resume answer)
  | reading reader content resume => carryOut client (resume (reader.drain.map (content ++ ·)))
  | working next => carryOut client next
  | finished reply => return reply

/-- The next stage that is reached without the client: one more piece of a stream, its end, or a
step of local work. -/
def advance? : Stage Reply → Option (Stage Reply)
  | calling _ _ | finished _ => none
  | reading ⟨[], failure⟩ content resume =>
    match failure with
    | some cause => some (resume (.error cause))
    | none => some (resume (.ok content))
  | reading ⟨piece :: rest, failure⟩ content resume =>
    some (reading ⟨rest, failure⟩ (content ++ piece) resume)
  | working next => some next

/-- The reply an operation ends with, if it makes no more call. -/
def reply? : Stage Reply → Option Reply
  | calling _ _ => none
  | reading reader content resume => (resume (reader.drain.map (content ++ ·))).reply?
  | working next => next.reply?
  | finished reply => some reply

/-- At most one call is still to be made. -/
def Single : Stage Reply → Prop
  | calling _ resume => ∀ answer, ∃ reply, (resume answer).reply? = some reply
  | reading _ _ resume => ∀ outcome, (resume outcome).Single
  | working next => next.Single
  | finished _ => True

/-- An operation that knows its reply returns it without the client. -/
theorem carryOut_of_reply? {m : Type → Type} [Monad m] (client : Client m) {stage : Stage Reply}
    {reply : Reply} (owed : stage.reply? = some reply) : stage.carryOut client = pure reply := by
  induction stage with
  | calling call resume _ => cases owed
  | reading reader content resume ih => exact ih _ owed
  | working next ih => exact ih owed
  | finished other =>
      obtain rfl := Option.some.inj owed
      rfl

theorem drain_cons (piece : Bytes) (rest : List Bytes) (failure : Option FileError)
    (content : Bytes) :
    (Reader.drain ⟨piece :: rest, failure⟩).map (content ++ ·) =
      (Reader.drain ⟨rest, failure⟩).map (content ++ piece ++ ·) := by
  cases failure with
  | some cause => rfl
  | none =>
      simp only [Reader.drain, Except.map, List.flatten_cons, List.append_assoc]

theorem drain_nil (failure : Option FileError) (content : Bytes) :
    (Reader.drain ⟨[], failure⟩).map (content ++ ·) =
      match failure with
      | some cause => .error cause
      | none => .ok content := by
  cases failure with
  | some cause => rfl
  | none => simp only [Reader.drain, Except.map, List.flatten_nil, List.append_nil]

/-- A step without the client changes nothing about how the operation goes on. -/
structure Continues (stage next : Stage Reply) : Prop where
  carryOut_eq : ∀ {m : Type → Type} [Monad m] (client : Client m),
    next.carryOut client = stage.carryOut client
  reply?_eq : next.reply? = stage.reply?
  single : stage.Single → next.Single

/-- A step without the client does not change the outcome of an operation. -/
theorem continues_of_advance? {stage next : Stage Reply} (advanced : stage.advance? = some next) :
    stage.Continues next := by
  cases stage with
  | calling call resume => cases advanced
  | finished reply => cases advanced
  | working next =>
      obtain rfl := Option.some.inj advanced
      exact ⟨fun _ => rfl, rfl, id⟩
  | reading reader content resume =>
      obtain ⟨pieces, failure⟩ := reader
      cases pieces with
      | cons piece rest =>
          obtain rfl := Option.some.inj advanced
          constructor
          case carryOut_eq =>
            intro m _ client
            simp only [carryOut, drain_cons]
          case reply?_eq => simp only [reply?, drain_cons]
          case single => exact id
      | nil =>
          have resumed : resume ((Reader.drain ⟨[], failure⟩).map (content ++ ·)) = next := by
            rw [drain_nil]
            cases failure <;> exact Option.some.inj advanced
          subst resumed
          exact ⟨fun _ => rfl, rfl, fun single => single _⟩

/-- Every stage is about to call, is finished, or can go on without the client. -/
theorem cases_of_advance? (stage : Stage Reply) :
    (∃ call resume, stage = calling call resume) ∨ (∃ reply, stage = finished reply) ∨
      ∃ next, stage.advance? = some next := by
  cases stage with
  | calling call resume => exact Or.inl ⟨call, resume, rfl⟩
  | finished reply => exact Or.inr (Or.inl ⟨reply, rfl⟩)
  | working next => exact Or.inr (Or.inr ⟨next, rfl⟩)
  | reading reader content resume =>
      obtain ⟨pieces, failure⟩ := reader
      cases pieces with
      | cons piece rest => exact Or.inr (Or.inr ⟨_, rfl⟩)
      | nil => cases failure <;> exact Or.inr (Or.inr ⟨_, rfl⟩)

end Stage

namespace Store

/-- Puts a content and passes the answer on. -/
def storing {Reply : Type} (store : Store) (content : Bytes) (path : String)
    (resume : Except StoreError Unit → Stage Reply) : Stage Reply :=
  .calling (.put (store.request content path)) fun answer => resume (answer.mapError (.write path))

/-- Gets a stream, reads it to the end and frees what came out of it of chunk headers. -/
def fetching {Reply : Type} (store : Store) (path : String)
    (resume : Except StoreError Bytes → Stage Reply) : Stage Reply :=
  .calling (.get store.bucket path) fun
    | .error cause => resume (.error (.read path cause))
    | .ok reader => .reading reader [] fun
      | .error cause => resume (.error (.read path (.io cause)))
      | .ok content => .working (resume (.ok (store.received content)))

/-- The first stage of an operation. -/
def stage (store : Store) : (request : Request) → Stage request.Reply
  | .add content path => store.storing content path .finished
  | .get path => store.fetching path .finished
  | .delete path =>
    .calling (.delete store.bucket path) fun answer => .finished (answer.mapError (.delete path))
  | .addDocument codec value path =>
    .working (match codec.encode value with
      | .error cause => .finished (.error (.encode path cause))
      | .ok text => store.storing (.ofText text) path .finished)
  | .getDocument codec path =>
    store.fetching path fun fetched => .working (.finished (decoded codec path fetched))

end Store

namespace Action

/-- The first stage of an action. -/
def stage : (action : Action) → Stage action.Reply
  | through store request => store.stage request
  | direct call => .calling call .finished

end Action

section Adequacy

variable {m : Type → Type} [Monad m] [LawfulMonad m] (client : Client m) {Reply : Type}

theorem Store.carryOut_storing (store : Store) (content : Bytes) (path : String)
    (resume : Except StoreError Unit → Stage Reply) :
    (store.storing content path resume).carryOut client =
      store.add client content path >>= fun stored => (resume stored).carryOut client := by
  rw [store.add_eq, bind_assoc]
  simp only [pure_bind]
  rfl

theorem Store.carryOut_fetching (store : Store) (path : String)
    (resume : Except StoreError Bytes → Stage Reply) :
    (store.fetching path resume).carryOut client =
      store.get client path >>= fun fetched => (resume fetched).carryOut client := by
  rw [store.get_eq, bind_assoc]
  simp only [pure_bind]
  apply bind_congr
  intro answer
  cases answer with
  | error cause => rfl
  | ok reader =>
      simp only [Stage.carryOut, Store.delivered, List.nil_append, Except.map]
      cases reader.drain <;> rfl

/-- The stages of an operation of a store carried out are the operation. -/
theorem Store.carryOut_stage (store : Store) (request : Store.Request) :
    (store.stage request).carryOut client = request.perform store client := by
  cases request with
  | add content path => exact (store.carryOut_storing client content path _).trans (bind_pure _)
  | get path => exact (store.carryOut_fetching client path _).trans (bind_pure _)
  | delete path => exact (store.delete_eq client path).symm
  | addDocument codec value path =>
      simp only [Store.stage, Stage.carryOut, Store.Request.perform, Store.addDocument]
      cases codec.encode value with
      | error cause => rfl
      | ok text =>
          exact (store.carryOut_storing client (.ofText text) path _).trans (bind_pure _)
  | getDocument codec path =>
      refine (store.carryOut_fetching client path fun fetched =>
        .working (.finished (Store.decoded codec path fetched))).trans ?_
      simp only [Store.Request.perform, Store.getDocument]
      apply bind_congr
      intro fetched
      cases fetched with
      | error error => rfl
      | ok content =>
          simp only [Stage.carryOut, Store.decoded]
          cases codec.decode content <;> rfl

/-- **The stages of an action carried out are the action.** -/
theorem Action.carryOut_stage (action : Action) :
    action.stage.carryOut client = action.perform client := by
  cases action with
  | through store request => exact store.carryOut_stage client request
  | direct call => exact bind_pure (client.answer call)

end Adequacy

/-! ## One call -/

/-- An operation that fetches makes one call, when it ends without another one. -/
theorem Store.single_fetching {Reply : Type} (store : Store) (path : String)
    {resume : Except StoreError Bytes → Stage Reply}
    (ends : ∀ fetched, ∃ reply, (resume fetched).reply? = some reply) :
    (store.fetching path resume).Single := by
  intro answer
  cases answer with
  | error cause => exact ends _
  | ok reader =>
      simp only [Stage.reply?]
      cases reader.drain with
      | error cause => exact ends _
      | ok content => exact ends _

/-- An action makes at most one call. -/
theorem Action.single_stage (action : Action) : action.stage.Single := by
  cases action with
  | direct call => exact fun answer => ⟨_, rfl⟩
  | through store request =>
      cases request with
      | add content path => exact fun answer => ⟨_, rfl⟩
      | delete path => exact fun answer => ⟨_, rfl⟩
      | get path => exact store.single_fetching path fun fetched => ⟨_, rfl⟩
      | getDocument codec path =>
          have ends (fetched : Except StoreError Bytes) : ∃ reply, Stage.reply?
              (.working (.finished (Store.decoded codec path fetched))) = some reply :=
            ⟨Store.decoded codec path fetched, rfl⟩
          exact store.single_fetching path ends
      | addDocument codec value path =>
          simp only [Action.stage, Store.stage, Stage.Single]
          cases codec.encode value with
          | error cause => trivial
          | ok text => exact fun answer => ⟨_, rfl⟩

end PipelineDepot
