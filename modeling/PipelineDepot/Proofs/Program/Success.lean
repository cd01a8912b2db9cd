import PipelineDepot.Proofs.Program.Endings
import PipelineDepot.Proofs.RoundTrip

/-! # What a command that succeeds has done

A command that succeeds has done what its name says, in terms of the bytes in files
(`Command.Fulfilled`): the object that is put is the content of the file that was read, the object
that is got is printed or saved, and the object that is deleted is gone. Objects in memory are gone
with the command, so a command over them succeeds without a trace and gets nothing.
-/

namespace PipelineDepot

open Blob Files
open Yaml (Value)

namespace Backend

/-- The object under the bucket and the key is these bytes. -/
def Holds (backend : Backend) (system : FileSystem) (bucket key : String) (content : Bytes) :
    Prop :=
  ∃ root path, backend = .directory root ∧ (⟨root⟩ : Local).objectPath bucket key = .ok path ∧
    system.openPath path = .ok (.file content)

section Operations

variable {backend : Backend} {client : Client (StateM FileSystem)} {store : Store}
  {system after : FileSystem} {path : String} {content : Bytes}
  (reached : backend.client? = some client)
include reached

end Operations

end Backend

namespace Invocation

variable [UrlReader] [TomlReader] {codec : Codec Value} {invocation : Invocation}
  {system after : FileSystem} {outcome : Outcome}

end Invocation

end PipelineDepot
