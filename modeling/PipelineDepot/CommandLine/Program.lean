import PipelineDepot.CommandLine.Resolution
import PipelineDepot.Config.Connection
import PipelineDepot.Json.Printer
import PipelineDepot.Readers
import PipelineDepot.Yaml.Record

/-! # Runs of the program

A run resolves the configuration, connects the store and performs one command. What it leaves on the
disk is the business of the disk; what it shows is its `Outcome`. A run that fails prints nothing on
the standard output.
-/

namespace PipelineDepot

open Yaml (Value)
open CommandLine (UsageError)

/-- Why a run failed. -/
inductive RunError
  | store (error : StoreError)
  | reading (file : String) (cause : FileError)
  | writing (file : String) (cause : FileError)
  /-- A file to be stored holds no YAML document. -/
  | notYaml (file : String) (cause : CodecError)
  | json (cause : Json.JsonError)
  | yaml (cause : CodecError)
  deriving DecidableEq, Repr

namespace RunError

/-- The wording of a run error. -/
def message : RunError → String
  | store error => error.userMessage
  | reading file cause => s!"reading {file}: {cause.message}"
  | writing file cause => s!"writing {file}: {cause.message}"
  | notYaml file cause => s!"{file} is not valid YAML: {cause.message}"
  | json cause => cause.message
  | yaml cause => cause.message

/-- The exit code of a category of errors. -/
def categoryCode : ErrorCategory → Nat
  | .storage => 1
  | .codec => 2
  | .configuration => 3
  | .system => 4

/-- The exit code of a run error. -/
def exitCode : RunError → Nat
  | store error => categoryCode error.category
  | _ => 1

end RunError

/-- What a run shows. -/
structure Outcome where
  exitCode : Nat
  output : Bytes
  /-- The complaint on the standard error output. -/
  complaint : Option String
  deriving DecidableEq, Repr

namespace Outcome

/-- The outcome of a run. -/
def of : Except RunError Bytes → Outcome
  | .ok output => ⟨0, output, none⟩
  | .error error => ⟨error.exitCode, [], some ("❌ " ++ error.message)⟩

/-- The outcome of arguments that are no command line. -/
def ofUsage : UsageError → Outcome
  | .help => ⟨0, [], none⟩
  | _ => ⟨2, [], none⟩

end Outcome

namespace Program

variable {m : Type → Type} [Monad m]

/-- Stores the content of a file. -/
def put (disk : Files.Disk m) (client : Blob.Client (Connected m)) (store : Store)
    (path file : String) : Connected m (Except RunError Bytes) := do
  match ← StateT.lift (disk.read file) with
  | .error cause => return .error (.reading file cause)
  | .ok content =>
    match ← store.add client content path with
    | .error error => return .error (.store error)
    | .ok () => return .ok []

/-- Fetches an object and prints it or saves it to a file. -/
def get (disk : Files.Disk m) (client : Blob.Client (Connected m)) (store : Store)
    (path : String) (output : Option String) : Connected m (Except RunError Bytes) := do
  match ← store.get client path with
  | .error error => return .error (.store error)
  | .ok content =>
    match output with
    | none => return .ok content
    | some file =>
      match ← StateT.lift (disk.write file content) with
      | .error cause => return .error (.writing file cause)
      | .ok () => return .ok []

/-- Stores the document in a file. -/
def putYaml (disk : Files.Disk m) (client : Blob.Client (Connected m)) (store : Store)
    (codec : Codec Value) (path file : String) : Connected m (Except RunError Bytes) := do
  match ← StateT.lift (disk.readText file) with
  | .error cause => return .error (.reading file cause)
  | .ok text =>
    match codec.decode (.ofText text) with
    | .error cause => return .error (.notYaml file cause)
    | .ok document =>
      match ← store.addDocument client codec document path with
      | .error error => return .error (.store error)
      | .ok () => return .ok []

/-- The printed form of a document. -/
def printed (codec : Codec Value) (json : Bool) (document : Value) : Except RunError Bytes :=
  if json then
    match Json.render document with
    | .error cause => .error (.json cause)
    | .ok text => .ok (.ofText (text ++ "\n"))
  else
    match codec.encode document with
    | .error cause => .error (.yaml cause)
    | .ok text => .ok (.ofText text)

/-- Fetches a document and prints it. -/
def getYaml (client : Blob.Client (Connected m)) (store : Store) (codec : Codec Value)
    (path : String) (json : Bool) : Connected m (Except RunError Bytes) := do
  match ← store.getDocument client codec path with
  | .error error => return .error (.store error)
  | .ok document => return printed codec json document

/-- Performs a command over a client. -/
def perform (disk : Files.Disk m) (client : Blob.Client (Connected m)) (store : Store)
    (codec : Codec Value) : Command → Connected m (Except RunError Bytes)
  | .key id => return .ok (.ofText (store.pipelineKey id ++ "\n"))
  | .put path file => put disk client store path file
  | .get path output => get disk client store path output
  | .delete path => do
    match ← store.delete client path with
    | .error error => return .error (.store error)
    | .ok () => return .ok []
  | .putYaml path file => putYaml disk client store codec path file
  | .getYaml path json => getYaml client store codec path json

/-- Performs a command with a configuration, objects in memory being there for the command only. -/
def performWith (disk : Files.Disk m) (codec : Codec Value) (config : StoreConfig)
    (command : Command) : m (Except RunError Bytes) := do
  match config.backend.connect disk with
  | .error error => return .error (.store error)
  | .ok client => (perform disk client (.ofConfig config) codec command).run' .empty

variable [UrlReader] [TomlReader]

/-- Runs a command line. -/
def runCommandLine (disk : Files.Disk m) (codec : Codec Value) (environment : Environment)
    (line : CommandLine) : m (Except RunError Bytes) := do
  match ← line.flags.resolve disk environment with
  | .error error => return .error (.store error)
  | .ok resolved => performWith disk codec resolved.store line.command

/-- Runs the program. -/
def run (disk : Files.Disk m) (environment : Environment) (arguments : List String) :
    m Outcome := do
  match CommandLine.parse arguments with
  | .error error => return .ofUsage error
  | .ok line => return .of (← runCommandLine disk Value.codec environment line)

end Program

end PipelineDepot
