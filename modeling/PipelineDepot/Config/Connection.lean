import PipelineDepot.Blob.Local
import PipelineDepot.Blob.Memory
import PipelineDepot.Config.Basic
import PipelineDepot.Store.Basic

/-! # Connecting a store

A configuration names a backend, and connecting gives a client of that backend: objects in memory,
which are there from the beginning of the connection to its end, or objects on a disk. Servers are
out of reach.
-/

namespace PipelineDepot

/-- A computation over a disk together with objects in memory. -/
abbrev Connected (m : Type → Type) := StateT Blob.Memory m

/-- A client whose calls are answered by another monad. -/
def Blob.Client.map {m n : Type → Type} (answer : {α : Type} → m α → n α)
    (client : Blob.Client m) : Blob.Client n where
  put request := answer (client.put request)
  get bucket key := answer (client.get bucket key)
  delete bucket key := answer (client.delete bucket key)

/-- The store that a configuration describes. -/
def Store.ofConfig (config : StoreConfig) : Store where
  bucket := config.bucketName
  baseFolder := config.baseFolder
  singlePart := config.disableMultipart

namespace Backend

/-- The error about a backend that is out of reach. -/
def unreachable : StoreError :=
  .config "S3 backend requested but pipeline-store was built without the `s3` feature"

variable {m : Type → Type} [Monad m]

/-- The client of a backend. -/
def connect (disk : Files.Disk m) :
    Backend → Except StoreError (Blob.Client (Connected m))
  | memory => .ok (Blob.Memory.client.map fun call objects => pure (call.run objects))
  | directory root => .ok (((⟨root⟩ : Blob.Local).client disk).map StateT.lift)
  | s3 _ => .error unreachable

end Backend

end PipelineDepot
