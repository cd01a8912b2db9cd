import PipelineDepot.Proofs.Session.Action

/-! # What an operation asks of its client

A client is any machine that answers puts, gets and deletes, and an answer to a get is a stream
that may end or break after any pieces. An operation of a store has at most one exchange with its
client and then returns (`Store.outcome_perform`). What it may return after which exchange is
listed in `Store.Outcome`: the call carries the bucket of the store and the path as they are,
nothing follows a failure, and the failure is passed on as it came.
-/

namespace PipelineDepot

open Blob

namespace Blob

/-- A call on a client with the answer to it. -/
structure Exchange where
  call : Call
  answer : call.Answer

namespace Client

variable {σ : Type} (client : Client (StateM σ))

/-- Makes a call and puts it with its answer at the end of the record. -/
def noting (call : Call) : StateM (List Exchange × σ) call.Answer := fun (log, state) =>
  let (answer, next) := client.answer call state
  (answer, log ++ [⟨call, answer⟩], next)

/-- The client with a record of the exchanges on it. -/
def recorded : Client (StateM (List Exchange × σ)) where
  put request := client.noting (.put request)
  get bucket key := client.noting (.get bucket key)
  delete bucket key := client.noting (.delete bucket key)

/-- A recorded call is answered like any other, and noted with its answer. -/
theorem answer_recorded (call : Call) : client.recorded.answer call = client.noting call := by
  cases call <;> rfl

/-- The client has these exchanges one after the other on the way from one state to another. -/
def Exchanged : List Exchange → σ → σ → Prop
  | [], state, final => state = final
  | ⟨call, answer⟩ :: rest, state, final =>
    (client.answer call state).1 = answer ∧ Exchanged rest (client.answer call state).2 final

end Client

end Blob

namespace Plan

variable {σ Reply : Type} (plan : Plan Reply) (client : Client (StateM σ)) (state : σ)

/-- The exchanges of a plan that is carried out in a state. -/
def exchanges : List Exchange :=
  match plan with
  | settled _ => []
  | calling call _ => [⟨call, (client.answer call state).1⟩]

/-- A record does not disturb a plan, and gains the exchanges of it. -/
theorem run_recorded (log : List Exchange) :
    plan.run client.recorded (log, state) =
      ((plan.run client state).1, log ++ plan.exchanges client state,
        (plan.run client state).2) := by
  cases plan with
  | settled reply => simp only [run, exchanges, List.append_nil]; rfl
  | calling call finish => simp only [run, client.answer_recorded]; rfl

/-- The exchanges of a plan are those that its run makes with the client. -/
theorem exchanged :
    client.Exchanged (plan.exchanges client state) state (plan.run client state).2 := by
  cases plan with
  | settled reply => rfl
  | calling call finish => exact ⟨rfl, rfl⟩

end Plan

namespace Store

/-- An upload of the content to the path. -/
structure Uploads (store : Store) (content : Bytes) (path : String) (upload : PutRequest) :
    Prop where
  bucket : upload.bucket = store.bucket
  key : upload.key = path
  body : upload.body = content
  contentType : upload.contentType = "application/octet-stream"
  single : store.singlePart = true → upload.size = .exact (UInt64.ofNat content.length)
  several : store.singlePart = false → upload.size = .unknown

/-- What an operation may come to: the exchanges it has with the client and what it returns. -/
inductive Outcome (store : Store) : (request : Request) → List Exchange → request.Reply → Prop
  | added {content path upload} (uploads : store.Uploads content path upload) :
      Outcome store (.add content path) [⟨.put upload, .ok ()⟩] (.ok ())
  | notAdded {content path upload cause} (uploads : store.Uploads content path upload) :
      Outcome store (.add content path) [⟨.put upload, .error cause⟩] (.error (.write path cause))
  | deleted {path} : Outcome store (.delete path) [⟨.delete store.bucket path, .ok ()⟩] (.ok ())
  | notDeleted {path cause} :
      Outcome store (.delete path) [⟨.delete store.bucket path, .error cause⟩]
        (.error (.delete path cause))
  /-- The stream ends after its pieces. -/
  | fetched {path pieces} :
      Outcome store (.get path) [⟨.get store.bucket path, .ok ⟨pieces, none⟩⟩]
        (.ok (if store.singlePart then ChunkSignature.strip pieces.flatten else pieces.flatten))
  /-- The stream breaks after its pieces, which are lost. -/
  | broken {path pieces cause} :
      Outcome store (.get path) [⟨.get store.bucket path, .ok ⟨pieces, some cause⟩⟩]
        (.error (.read path (.io cause)))
  | notFetched {path cause} :
      Outcome store (.get path) [⟨.get store.bucket path, .error cause⟩]
        (.error (.read path cause))
  | notEncoded {α : Type} {codec : Codec α} {value path cause}
      (failed : codec.encode value = .error cause) :
      Outcome store (.addDocument codec value path) [] (.error (.encode path cause))
  | encoded {α : Type} {codec : Codec α} {value path text exchanges reply}
      (encodes : codec.encode value = .ok text)
      (text_added : Outcome store (.add (.ofText text) path) exchanges reply) :
      Outcome store (.addDocument codec value path) exchanges reply
  | notDelivered {α : Type} {codec : Codec α} {path exchanges error}
      (failed : Outcome store (.get path) exchanges (.error error)) :
      Outcome store (.getDocument codec path) exchanges (.error error)
  | notDecoded {α : Type} {codec : Codec α} {path exchanges content cause}
      (delivered : Outcome store (.get path) exchanges (.ok content))
      (failed : codec.decode content = .error cause) :
      Outcome store (.getDocument codec path) exchanges (.error (.decode path cause))
  | decoded {α : Type} {codec : Codec α} {path exchanges content value}
      (delivered : Outcome store (.get path) exchanges (.ok content))
      (decodes : codec.decode content = .ok value) :
      Outcome store (.getDocument codec path) exchanges (.ok value)

variable (store : Store)

/-- The request that a store puts uploads its content under its path. -/
theorem uploads_request (content : Bytes) (path : String) :
    store.Uploads content path (store.request content path) where
  bucket := rfl
  key := rfl
  body := rfl
  contentType := rfl
  single single := by simp only [request, uploadSize, single, ↓reduceIte]
  several several := by simp only [request, uploadSize, several, Bool.false_eq_true, ↓reduceIte]

theorem outcome_add (content : Bytes) (path : String) (answer : Except BlobError Unit) :
    store.Outcome (.add content path) [⟨.put (store.request content path), answer⟩]
      (answer.mapError (.write path)) := by
  have uploads := store.uploads_request content path
  cases answer with
  | ok _ => exact .added uploads
  | error cause => exact .notAdded uploads

theorem outcome_delete (path : String) (answer : Except BlobError Unit) :
    store.Outcome (.delete path) [⟨.delete store.bucket path, answer⟩]
      (answer.mapError (.delete path)) := by
  cases answer with
  | ok _ => exact .deleted
  | error cause => exact .notDeleted

theorem outcome_get (path : String) (answer : Except BlobError Reader) :
    store.Outcome (.get path) [⟨.get store.bucket path, answer⟩]
      (store.delivered path answer) := by
  rcases answer with cause | ⟨pieces, _ | cause⟩
  · exact .notFetched
  · exact .fetched
  · exact .broken

/-- A plan that is carried out comes to what its operation may come to. -/
theorem outcome_plan {σ : Type} (client : Client (StateM σ)) (request : Request) (state : σ) :
    store.Outcome request ((store.plan request).exchanges client state)
      ((store.plan request).run client state).1 := by
  cases request with
  | add content path => exact store.outcome_add content path _
  | get path => exact store.outcome_get path _
  | delete path => exact store.outcome_delete path _
  | addDocument codec value path =>
      rw [plan]
      cases encodes : codec.encode value with
      | error cause => exact .notEncoded encodes
      | ok text => exact .encoded encodes (store.outcome_add (.ofText text) path _)
  | getDocument codec path =>
      have fetch := store.outcome_get path (client.get store.bucket path state).1
      change store.Outcome (.getDocument codec path) [⟨.get store.bucket path, _⟩]
        (Store.decoded codec path (store.delivered path (client.get store.bucket path state).1))
      cases gives : store.delivered path (client.get store.bucket path state).1 with
      | error error => exact .notDelivered (gives ▸ fetch)
      | ok content =>
          rw [gives] at fetch
          simp only [Store.decoded]
          cases decodes : codec.decode content with
          | error cause => exact .notDecoded fetch decodes
          | ok value => exact .decoded fetch decodes

/-- **An operation has one exchange with its client and passes the answer on.** Over every
client, in every state, an operation adds at most one exchange to the record: the exchange really
takes place on the client and accounts for all that happens to it, and the operation returns what
the exchange asks for. The record changes nothing. -/
theorem outcome_perform {σ : Type} (client : Client (StateM σ)) (request : Request)
    (log : List Exchange) (state : σ) :
    ∃ exchanges reply final,
      request.perform store client.recorded (log, state) = (reply, log ++ exchanges, final) ∧
        request.perform store client state = (reply, final) ∧
        client.Exchanged exchanges state final ∧ store.Outcome request exchanges reply := by
  rw [request.perform_eq_run, request.perform_eq_run]
  exact ⟨(store.plan request).exchanges client state, _, _,
    (store.plan request).run_recorded client state log, rfl,
    (store.plan request).exchanged client state, store.outcome_plan client request state⟩

end Store

end PipelineDepot
