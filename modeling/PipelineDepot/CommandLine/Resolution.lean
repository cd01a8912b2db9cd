import PipelineDepot.CommandLine.Basic
import PipelineDepot.Config.Environment
import PipelineDepot.Config.File

/-! # The configuration of a run

A run takes its configuration from the file that the command line names, else from defaults for the
bucket that it names, else from the environment. The settings on the command line then go on top,
and the result has to be sound.
-/

namespace PipelineDepot

/-- The configuration of a run. -/
structure Resolved where
  store : StoreConfig
  /-- The log is written as JSON. -/
  jsonLogging : Bool
  deriving DecidableEq, Repr

namespace Flags

variable [UrlReader] [TomlReader] (flags : Flags)

/-- The backend that the settings make of another one. -/
def mergeBackend (source : Backend) : Backend :=
  match flags.backend.getD source.kind, source with
  | .memory, _ => .memory
  | .directory, .directory root =>
    .directory (flags.root.getD (if flags.backend.isSome then defaultRoot else root))
  | .directory, _ => .directory (flags.root.getD defaultRoot)
  | .s3, .s3 settings => .s3 { settings with endpoint := flags.endpoint.or settings.endpoint }
  | .s3, _ => .s3 { endpoint := flags.endpoint }

/-- The configuration that the settings make of another one. -/
def merge (source : StoreConfig) : StoreConfig where
  bucketName := flags.bucket.getD source.bucketName
  baseFolder := flags.baseFolder.getD source.baseFolder
  disableMultipart := source.disableMultipart && !flags.multipart
  backend := flags.mergeBackend source.backend

variable {m : Type → Type} [Monad m] (disk : Files.Disk m) (environment : Environment)

/-- The configuration that the settings go on top of. -/
def source : m (Except StoreError Resolved) := do
  match flags.config, flags.bucket with
  | some path, _ =>
    match ← ConfigFile.load disk environment path with
    | .error error => return .error error
    | .ok file => return .ok ⟨file.store, file.jsonLogging⟩
  | none, some bucket => return .ok ⟨{ bucketName := bucket }, false⟩
  | none, none => return environment.config.map (⟨·, false⟩)

/-- Puts the settings on top of a configuration and checks the result. -/
def complete (source : Resolved) : Except StoreError Resolved := do
  let store := flags.merge source.store
  store.validate
  return ⟨store, source.jsonLogging⟩

/-- The configuration of a run. -/
def resolve : m (Except StoreError Resolved) := do
  match ← flags.source disk environment with
  | .error error => return .error error
  | .ok source => return flags.complete source

end Flags

end PipelineDepot
