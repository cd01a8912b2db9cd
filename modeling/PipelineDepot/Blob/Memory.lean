import PipelineDepot.Blob.Client

/-! # Objects in memory

A client over a value: the objects, the calls made so far, and the operations that are set to
fail. Every call is recorded before it succeeds or fails.
-/

namespace PipelineDepot.Blob

/-- The operations of a client. -/
inductive Operation
  | put
  | get
  | delete
  deriving DecidableEq, Repr

/-- The name of an operation. -/
def Operation.name : Operation → String
  | put => "Put"
  | get => "Get"
  | delete => "Delete"

/-- A call made on a client. -/
inductive Call
  | put (request : PutRequest)
  | get (bucket key : String)
  | delete (bucket key : String)
  deriving DecidableEq, Repr

namespace Call

/-- The operation called. -/
def operation : Call → Operation
  | put _ => .put
  | get _ _ => .get
  | delete _ _ => .delete

/-- The bucket and the key called with. -/
def address : Call → String × String
  | put request => (request.bucket, request.key)
  | get bucket key => (bucket, key)
  | delete bucket key => (bucket, key)

end Call

/-- What a client in memory holds. -/
structure Memory where
  /-- The objects, each address at most once. -/
  objects : List ((String × String) × Bytes) := []
  /-- The calls, in the order they were made. -/
  calls : List Call := []
  /-- The operations set to fail. -/
  failing : List Operation := []
  deriving DecidableEq, Repr

namespace Memory

/-- No object, no call, and nothing set to fail. -/
def empty : Memory := {}

/-- The object at an address. -/
def find? (memory : Memory) (bucket key : String) : Option Bytes :=
  memory.objects.lookup (bucket, key)

/-- Sets the object at an address. -/
def insert (memory : Memory) (bucket key : String) (content : Bytes) : Memory :=
  let others := memory.objects.filter (·.1 ≠ (bucket, key))
  { memory with objects := ((bucket, key), content) :: others }

/-- Takes away the object at an address. -/
def erase (memory : Memory) (bucket key : String) : Memory :=
  { memory with objects := memory.objects.filter (·.1 ≠ (bucket, key)) }

/-- The number of objects. -/
def size (memory : Memory) : Nat := memory.objects.length

/-- Sets an operation to fail from now on. -/
def failOn (memory : Memory) (operation : Operation) : Memory :=
  { memory with failing := operation :: memory.failing.filter (· ≠ operation) }

/-- Lets an operation succeed again. -/
def recover (memory : Memory) (operation : Operation) : Memory :=
  { memory with failing := memory.failing.filter (· ≠ operation) }

/-- Records a call. -/
def record (memory : Memory) (call : Call) : Memory :=
  { memory with calls := memory.calls ++ [call] }

/-- The failure an operation is set to, if any. -/
def injected? (memory : Memory) (operation : Operation) (bucket key : String) :
    Option BlobError :=
  if operation ∈ memory.failing then
    some (.backend s!"injected {operation.name} failure for {bucket}/{key}")
  else none

/-- Puts an object. -/
def put (memory : Memory) (request : PutRequest) : Except BlobError Unit × Memory :=
  let memory := memory.record (.put request)
  match memory.injected? .put request.bucket request.key with
  | some cause => (.error cause, memory)
  | none => (.ok (), memory.insert request.bucket request.key request.body)

/-- Gets an object. -/
def get (memory : Memory) (bucket key : String) : Except BlobError Reader × Memory :=
  let memory := memory.record (.get bucket key)
  match memory.injected? .get bucket key with
  | some cause => (.error cause, memory)
  | none =>
    match memory.find? bucket key with
    | none => (.error (.notFound bucket key), memory)
    | some content => (.ok (.ofBytes content), memory)

/-- Deletes an object; deleting a missing one succeeds. -/
def delete (memory : Memory) (bucket key : String) : Except BlobError Unit × Memory :=
  let memory := memory.record (.delete bucket key)
  match memory.injected? .delete bucket key with
  | some cause => (.error cause, memory)
  | none => (.ok (), memory.erase bucket key)

/-- The client over objects in memory. -/
def client : Client (StateM Memory) where
  put request := fun memory => memory.put request
  get bucket key := fun memory => memory.get bucket key
  delete bucket key := fun memory => memory.delete bucket key

end Memory

end PipelineDepot.Blob
