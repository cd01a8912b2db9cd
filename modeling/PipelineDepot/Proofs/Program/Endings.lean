import PipelineDepot.Proofs.Config.Faults
import PipelineDepot.Proofs.Program.Commands

/-! # How a run of the program can end

A run resolves its configuration, connects the store and takes the steps of its command, and the
first step that fails decides how it ends. `Performs` lists the endings of the commands and
`Invocation.Ends` those of whole runs, each with what the run shows and the tree it leaves. A run
ends in one of the listed ways and in no other (`Invocation.ends_iff`).
-/

namespace PipelineDepot

open Blob Files
open Yaml (Value)

namespace Outcome

/-- The outcome of a run that succeeds. -/
def done (output : Bytes) : Outcome := ⟨0, output, none⟩

/-- The outcome of a run that fails, which prints nothing. -/
def failed (code : Nat) (message : String) : Outcome := ⟨code, [], some ("❌ " ++ message)⟩

end Outcome

/-! ## Commands -/

/-- How a command can end over a client: what it shows and the tree it leaves. -/
inductive Performs (client : Client (StateM FileSystem)) (store : Store) (codec : Codec Value)
    (system : FileSystem) : Command → Outcome → FileSystem → Prop
  | key {id} :
      Performs client store codec system (.key id)
        (.done (.ofText (store.pipelineKey id ++ "\n"))) system
  | putUnread {path file cause} (unread : system.contentAt file = .error cause) :
      Performs client store codec system (.put path file)
        (.failed 1 s!"reading {file}: {cause.message}") system
  | putRefused {path file content error after} (read : system.contentAt file = .ok content)
      (refused : store.add client content path system = (.error error, after)) :
      Performs client store codec system (.put path file) (.failed 1 error.userMessage) after
  | put {path file content after} (read : system.contentAt file = .ok content)
      (added : store.add client content path system = (.ok (), after)) :
      Performs client store codec system (.put path file) (.done []) after
  | getRefused {path output error after}
      (refused : store.get client path system = (.error error, after)) :
      Performs client store codec system (.get path output) (.failed 1 error.userMessage) after
  | getPrinted {path content after} (got : store.get client path system = (.ok content, after)) :
      Performs client store codec system (.get path none) (.done content) after
  | getUnwritten {path file content cause after}
      (got : store.get client path system = (.ok content, after))
      (unwritten : after.write file content = .error cause) :
      Performs client store codec system (.get path (some file))
        (.failed 1 s!"writing {file}: {cause.message}") after
  | getSaved {path file content after saved}
      (got : store.get client path system = (.ok content, after))
      (written : after.write file content = .ok saved) :
      Performs client store codec system (.get path (some file)) (.done []) saved
  | deleteRefused {path error after}
      (refused : store.delete client path system = (.error error, after)) :
      Performs client store codec system (.delete path) (.failed 1 error.userMessage) after
  | deleted {path after} (deleted : store.delete client path system = (.ok (), after)) :
      Performs client store codec system (.delete path) (.done []) after
  | putYamlUnread {path file cause} (unread : system.textAt file = .error cause) :
      Performs client store codec system (.putYaml path file)
        (.failed 1 s!"reading {file}: {cause.message}") system
  | putYamlMalformed {path file text cause} (read : system.textAt file = .ok text)
      (malformed : codec.decode (.ofText text) = .error cause) :
      Performs client store codec system (.putYaml path file)
        (.failed 1 s!"{file} is not valid YAML: {cause.message}") system
  | putYamlUnencoded {path file text document cause} (read : system.textAt file = .ok text)
      (decodes : codec.decode (.ofText text) = .ok document)
      (unencoded : codec.encode document = .error cause) :
      Performs client store codec system (.putYaml path file)
        (.failed 2 (StoreError.encode path cause).userMessage) system
  | putYamlRefused {path file text document encoded error after}
      (read : system.textAt file = .ok text) (decodes : codec.decode (.ofText text) = .ok document)
      (encodes : codec.encode document = .ok encoded)
      (refused : store.add client (.ofText encoded) path system = (.error error, after)) :
      Performs client store codec system (.putYaml path file) (.failed 1 error.userMessage) after
  | putYaml {path file text document encoded after} (read : system.textAt file = .ok text)
      (decodes : codec.decode (.ofText text) = .ok document)
      (encodes : codec.encode document = .ok encoded)
      (added : store.add client (.ofText encoded) path system = (.ok (), after)) :
      Performs client store codec system (.putYaml path file) (.done []) after
  | getYamlRefused {path json error after}
      (refused : store.get client path system = (.error error, after)) :
      Performs client store codec system (.getYaml path json) (.failed 1 error.userMessage) after
  | getYamlMalformed {path json content cause after}
      (got : store.get client path system = (.ok content, after))
      (malformed : codec.decode content = .error cause) :
      Performs client store codec system (.getYaml path json)
        (.failed 2 (StoreError.decode path cause).userMessage) after
  | getYamlUnprinted {path json content document error after}
      (got : store.get client path system = (.ok content, after))
      (decodes : codec.decode content = .ok document)
      (unprinted : Program.printed codec json document = .error error) :
      Performs client store codec system (.getYaml path json) (.failed 1 error.message) after
  | getYaml {path json content document output after}
      (got : store.get client path system = (.ok content, after))
      (decodes : codec.decode content = .ok document)
      (prints : Program.printed codec json document = .ok output) :
      Performs client store codec system (.getYaml path json) (.done output) after

namespace Store

variable {σ : Type} {client : Client (StateM σ)} {store : Store} {path : String} {state : σ}
  {error : StoreError}

/-- A store that cannot add an object reports a fault of the storage. -/
theorem category_of_add {content : Bytes}
    (refused : (store.add client content path state).1 = .error error) :
    error.category = .storage := by
  rw [add_apply] at refused
  cases answer : (client.put (store.request content path) state).1 with
  | ok _ => cases answer ▸ refused
  | error cause =>
      cases answer ▸ refused
      rfl

theorem category_of_delete (refused : (store.delete client path state).1 = .error error) :
    error.category = .storage := by
  rw [delete_apply] at refused
  cases answer : (client.delete store.bucket path state).1 with
  | ok _ => cases answer ▸ refused
  | error cause =>
      cases answer ▸ refused
      rfl

theorem category_of_get (refused : (store.get client path state).1 = .error error) :
    error.category = .storage := by
  rw [get_apply] at refused
  simp only [delivered] at refused
  split at refused
  next =>
    cases refused
    rfl
  next =>
    split at refused
    next =>
      cases refused
      rfl
    next => cases refused

end Store

/-- A document that cannot be printed ends the run like a fault of the storage. -/
theorem RunError.exitCode_of_printed {codec : Codec Value} {json : Bool} {document : Value}
    {error : RunError} (unprinted : Program.printed codec json document = .error error) :
    error.exitCode = 1 := by
  unfold Program.printed at unprinted
  split at unprinted
  next =>
    split at unprinted
    next =>
      cases unprinted
      rfl
    next => cases unprinted
  next =>
    split at unprinted
    next =>
      cases unprinted
      rfl
    next => cases unprinted

namespace Outcome

theorem of_code {error : RunError} {code : Nat} (exits : error.exitCode = code) :
    of (.error error) = failed code error.message := by
  simp only [of, failed, exits]

theorem of_storage {error : StoreError} (storage : error.category = .storage) :
    of (.error (.store error)) = failed 1 error.userMessage :=
  of_code (congrArg RunError.categoryCode storage)

theorem of_configuration {error : StoreError} (configuration : error.category = .configuration) :
    of (.error (.store error)) = failed 3 error.userMessage :=
  of_code (congrArg RunError.categoryCode configuration)

end Outcome

section Commands

variable {connected : Client (Connected (StateM FileSystem))} {client : Client (StateM FileSystem)}
  {store : Store} {codec : Codec Value} {system : FileSystem}

theorem performs_put (connects : connected.Connects client) (path file : String) :
    Performs client store codec system (.put path file)
      (.of ((Program.put FileSystem.disk connected store path file).run' .empty system).1)
      ((Program.put FileSystem.disk connected store path file).run' .empty system).2 := by
  rw [Program.put_eq connects]
  cases read : system.contentAt file with
  | error cause => exact .putUnread read
  | ok content =>
      simp only
      cases added : store.add client content path system with
      | mk answer after =>
          cases answer with
          | ok _ => exact .put read added
          | error error =>
              have storage := Store.category_of_add (congrArg Prod.fst added)
              exact Outcome.of_storage storage ▸ .putRefused read added

theorem performs_get (connects : connected.Connects client) (path : String)
    (output : Option String) :
    Performs client store codec system (.get path output)
      (.of ((Program.get FileSystem.disk connected store path output).run' .empty system).1)
      ((Program.get FileSystem.disk connected store path output).run' .empty system).2 := by
  rw [Program.get_eq connects]
  cases got : store.get client path system with
  | mk answer after =>
      cases answer with
      | error error =>
          have storage := Store.category_of_get (congrArg Prod.fst got)
          exact Outcome.of_storage storage ▸ .getRefused got
      | ok content =>
          cases output with
          | none => exact .getPrinted got
          | some file =>
              simp only
              cases written : after.write file content with
              | error cause => exact .getUnwritten got written
              | ok saved => exact .getSaved got written

theorem performs_delete (connects : connected.Connects client) (path : String) :
    Performs client store codec system (.delete path)
      (.of ((Program.perform FileSystem.disk connected store codec (.delete path)).run' .empty
        system).1)
      ((Program.perform FileSystem.disk connected store codec (.delete path)).run' .empty
        system).2 := by
  rw [Program.delete_eq connects]
  cases deleted : store.delete client path system with
  | mk answer after =>
      cases answer with
      | ok _ => exact .deleted deleted
      | error error =>
          have storage := Store.category_of_delete (congrArg Prod.fst deleted)
          exact Outcome.of_storage storage ▸ .deleteRefused deleted

theorem performs_putYaml (connects : connected.Connects client) (path file : String) :
    Performs client store codec system (.putYaml path file)
      (.of ((Program.putYaml FileSystem.disk connected store codec path file).run' .empty
        system).1)
      ((Program.putYaml FileSystem.disk connected store codec path file).run' .empty
        system).2 := by
  rw [Program.putYaml_eq connects]
  cases read : system.textAt file with
  | error cause => exact .putYamlUnread read
  | ok text =>
      simp only
      cases decodes : codec.decode (.ofText text) with
      | error cause => exact .putYamlMalformed read decodes
      | ok document =>
          simp only [Store.addDocument]
          cases encodes : codec.encode document with
          | error cause => exact .putYamlUnencoded read decodes encodes
          | ok encoded =>
              simp only
              cases added : store.add client (.ofText encoded) path system with
              | mk answer after =>
                  cases answer with
                  | ok _ => exact .putYaml read decodes encodes added
                  | error error =>
                      have storage := Store.category_of_add (congrArg Prod.fst added)
                      exact Outcome.of_storage storage ▸
                        .putYamlRefused read decodes encodes added

theorem performs_getYaml (connects : connected.Connects client) (path : String) (json : Bool) :
    Performs client store codec system (.getYaml path json)
      (.of ((Program.getYaml connected store codec path json).run' .empty system).1)
      ((Program.getYaml connected store codec path json).run' .empty system).2 := by
  rw [Program.getYaml_eq connects, Store.getDocument_apply]
  cases got : store.get client path system with
  | mk answer after =>
      cases answer with
      | error error =>
          have storage := Store.category_of_get (congrArg Prod.fst got)
          exact Outcome.of_storage storage ▸ .getYamlRefused got
      | ok content =>
          simp only [Store.decoded]
          cases decodes : codec.decode content with
          | error cause => exact .getYamlMalformed got decodes
          | ok document =>
              simp only [Except.mapError, Except.bind]
              cases prints : Program.printed codec json document with
              | ok output => exact .getYaml got decodes prints
              | error error =>
                  have code := RunError.exitCode_of_printed prints
                  exact Outcome.of_code code ▸ .getYamlUnprinted got decodes prints

/-- A command ends in one of the listed ways. -/
theorem performs_perform (connects : connected.Connects client) (command : Command) :
    Performs client store codec system command
      (.of ((Program.perform FileSystem.disk connected store codec command).run' .empty system).1)
      ((Program.perform FileSystem.disk connected store codec command).run' .empty system).2 := by
  cases command with
  | key id => exact .key
  | put path file => exact performs_put connects path file
  | get path output => exact performs_get connects path output
  | delete path => exact performs_delete connects path
  | putYaml path file => exact performs_putYaml connects path file
  | getYaml path json => exact performs_getYaml connects path json

/-- A way to end a command is how it ends. -/
theorem Performs.perform_eq {command : Command} {outcome : Outcome} {after : FileSystem}
    (performs : Performs client store codec system command outcome after)
    (connects : connected.Connects client) :
    Outcome.of ((Program.perform FileSystem.disk connected store codec command).run' .empty
        system).1 = outcome ∧
      ((Program.perform FileSystem.disk connected store codec command).run' .empty
        system).2 = after := by
  cases performs with
  | key => exact ⟨rfl, rfl⟩
  | putUnread unread =>
      simp only [Program.perform, Program.put_eq connects, unread]
      exact ⟨rfl, trivial⟩
  | putRefused read refused =>
      have storage := Store.category_of_add (congrArg Prod.fst refused)
      simp only [Program.perform, Program.put_eq connects, read, refused]
      exact ⟨Outcome.of_storage storage, trivial⟩
  | put read added =>
      simp only [Program.perform, Program.put_eq connects, read, added]
      exact ⟨rfl, trivial⟩
  | getRefused refused =>
      have storage := Store.category_of_get (congrArg Prod.fst refused)
      simp only [Program.perform, Program.get_eq connects, refused]
      exact ⟨Outcome.of_storage storage, trivial⟩
  | getPrinted got =>
      simp only [Program.perform, Program.get_eq connects, got]
      exact ⟨rfl, trivial⟩
  | getUnwritten got unwritten =>
      simp only [Program.perform, Program.get_eq connects, got, unwritten]
      exact ⟨rfl, trivial⟩
  | getSaved got written =>
      simp only [Program.perform, Program.get_eq connects, got, written]
      exact ⟨rfl, trivial⟩
  | deleteRefused refused =>
      have storage := Store.category_of_delete (congrArg Prod.fst refused)
      simp only [Program.delete_eq connects, refused]
      exact ⟨Outcome.of_storage storage, trivial⟩
  | deleted deleted =>
      simp only [Program.delete_eq connects, deleted]
      exact ⟨rfl, trivial⟩
  | putYamlUnread unread =>
      simp only [Program.perform, Program.putYaml_eq connects, unread]
      exact ⟨rfl, trivial⟩
  | putYamlMalformed read malformed =>
      simp only [Program.perform, Program.putYaml_eq connects, read, malformed]
      exact ⟨rfl, trivial⟩
  | putYamlUnencoded read decodes unencoded =>
      simp only [Program.perform, Program.putYaml_eq connects, read, decodes, Store.addDocument,
        unencoded]
      exact ⟨rfl, rfl⟩
  | putYamlRefused read decodes encodes refused =>
      have storage := Store.category_of_add (congrArg Prod.fst refused)
      simp only [Program.perform, Program.putYaml_eq connects, read, decodes, Store.addDocument,
        encodes, refused]
      exact ⟨Outcome.of_storage storage, trivial⟩
  | putYaml read decodes encodes added =>
      simp only [Program.perform, Program.putYaml_eq connects, read, decodes, Store.addDocument,
        encodes, added]
      exact ⟨rfl, trivial⟩
  | getYamlRefused refused =>
      have storage := Store.category_of_get (congrArg Prod.fst refused)
      simp only [Program.perform, Program.getYaml_eq connects, Store.getDocument_apply, refused]
      exact ⟨Outcome.of_storage storage, trivial⟩
  | getYamlMalformed got malformed =>
      simp only [Program.perform, Program.getYaml_eq connects, Store.getDocument_apply, got,
        Store.decoded, malformed]
      exact ⟨rfl, trivial⟩
  | getYamlUnprinted got decodes unprinted =>
      have code := RunError.exitCode_of_printed unprinted
      simp only [Program.perform, Program.getYaml_eq connects, Store.getDocument_apply, got,
        Store.decoded, decodes, Except.mapError, Except.bind, unprinted]
      exact ⟨Outcome.of_code code, trivial⟩
  | getYaml got decodes prints =>
      simp only [Program.perform, Program.getYaml_eq connects, Store.getDocument_apply, got,
        Store.decoded, decodes, Except.mapError, Except.bind, prints]
      exact ⟨rfl, trivial⟩

end Commands

/-! ## Runs -/

/-- What a run is given: the variables of its environment and its command line. -/
structure Invocation where
  environment : Environment
  line : CommandLine

namespace Invocation

variable [UrlReader] [TomlReader] (codec : Codec Value) (invocation : Invocation)
  (system : FileSystem)

/-- Runs the program on a tree of files. -/
def run : StateM FileSystem Outcome := do
  return .of (← Program.runCommandLine FileSystem.disk codec invocation.environment invocation.line)

/-- The run comes to this configuration. -/
def Resolves (config : StoreConfig) : Prop :=
  ∃ jsonLogging,
    (invocation.line.flags.resolve FileSystem.disk invocation.environment system).1 =
      .ok ⟨config, jsonLogging⟩

/-- How a run can end: what it shows and the tree it leaves. -/
inductive Ends : Outcome → FileSystem → Prop
  | unreadable {path cause} (named : invocation.line.flags.config = some path)
      (unread : system.textAt path = .error cause) :
      Ends (.failed 4 ("IO error: " ++ cause.message)) system
  | misconfigured {error}
      (readable : ∀ path, invocation.line.flags.config = some path →
        ∃ text, system.textAt path = .ok text)
      (fails : (invocation.line.flags.resolve FileSystem.disk invocation.environment system).1 =
        .error error) :
      Ends (.failed 3 error.userMessage) system
  | unsupported {config settings} (resolves : invocation.Resolves system config)
      (server : config.backend = .s3 settings) :
      Ends (.failed 3 Backend.unreachable.userMessage) system
  | performed {config client outcome after} (resolves : invocation.Resolves system config)
      (reached : config.backend.client? = some client)
      (performs : Performs client (.ofConfig config) codec system invocation.line.command outcome
        after) :
      Ends outcome after

section Run

variable {codec : Codec Value} {invocation : Invocation} {system : FileSystem}

/-- Resolving a configuration changes nothing. -/
theorem resolve_snd_eq (flags : Flags) (environment : Environment) (system : FileSystem) :
    (flags.resolve FileSystem.disk environment system).2 = system := by
  rw [flags.resolve_snd]
  cases flags.config with
  | none => rfl
  | some path => simp only [FileSystem.readText_eq]

/-- A run without a configuration fails with the error and changes nothing. -/
theorem run_of_error {error : StoreError}
    (fails : (invocation.line.flags.resolve FileSystem.disk invocation.environment system).1 =
      .error error) :
    invocation.run codec system = (.of (.error (.store error)), system) := by
  have resolved : invocation.line.flags.resolve FileSystem.disk invocation.environment system =
      (.error error, system) := Prod.ext fails (resolve_snd_eq _ _ _)
  simp only [run, Program.runCommandLine, bind, StateT.bind, resolved]
  rfl

/-- A run with a configuration is its command with it. -/
theorem run_of_resolves {config : StoreConfig} (resolves : invocation.Resolves system config) :
    invocation.run codec system =
      (.of (Program.performWith FileSystem.disk codec config invocation.line.command system).1,
        (Program.performWith FileSystem.disk codec config invocation.line.command system).2) := by
  obtain ⟨jsonLogging, found⟩ := resolves
  have resolved : invocation.line.flags.resolve FileSystem.disk invocation.environment system =
      (.ok ⟨config, jsonLogging⟩, system) := Prod.ext found (resolve_snd_eq _ _ _)
  simp only [run, Program.runCommandLine, bind, StateT.bind, resolved]
  rfl

/-- A run on a server is refused. -/
theorem run_of_server {config : StoreConfig} {settings : S3Settings}
    (resolves : invocation.Resolves system config) (server : config.backend = .s3 settings) :
    invocation.run codec system = (.failed 3 Backend.unreachable.userMessage, system) := by
  rw [run_of_resolves resolves]
  simp only [Program.performWith, server, Backend.connect]
  rfl

/-- A run that reaches a client is its command over a connected one. -/
theorem run_of_client (codec : Codec Value) {config : StoreConfig}
    {client : Client (StateM FileSystem)} (resolves : invocation.Resolves system config)
    (reached : config.backend.client? = some client) :
    ∃ connected : Client (Connected (StateM FileSystem)), connected.Connects client ∧
      let command := Program.perform FileSystem.disk connected (.ofConfig config) codec
        invocation.line.command
      invocation.run codec system =
        (.of (command.run' .empty system).1, (command.run' .empty system).2) := by
  obtain ⟨connected, joined, connects⟩ := Backend.connects_of_client? reached
  refine ⟨connected, connects, ?_⟩
  rw [run_of_resolves resolves]
  simp only [Program.performWith, joined]

/-- A run that reaches a client performs its command over it. -/
theorem performs_run (codec : Codec Value) {config : StoreConfig}
    {client : Client (StateM FileSystem)} (resolves : invocation.Resolves system config)
    (reached : config.backend.client? = some client) :
    Performs client (.ofConfig config) codec system invocation.line.command
      (invocation.run codec system).1 (invocation.run codec system).2 := by
  obtain ⟨connected, connects, ran⟩ := run_of_client codec resolves reached
  rw [ran]
  exact performs_perform connects _

variable (codec invocation system) in
/-- A run ends in one of the listed ways. -/
theorem ends_run :
    invocation.Ends codec system (invocation.run codec system).1
      (invocation.run codec system).2 := by
  cases found : (invocation.line.flags.resolve FileSystem.disk invocation.environment system).1 with
  | ok resolved =>
      have resolves : invocation.Resolves system resolved.store := ⟨resolved.jsonLogging, found⟩
      cases backend : resolved.store.backend with
      | s3 settings =>
          rw [run_of_server resolves backend]
          exact .unsupported resolves backend
      | memory | directory root =>
          have reached := congrArg Backend.client? backend
          exact .performed resolves reached (performs_run codec resolves reached)
  | error error =>
      rw [run_of_error found]
      by_cases unreadable : ∃ path cause, invocation.line.flags.config = some path ∧
          system.textAt path = .error cause
      · obtain ⟨path, cause, named, unread⟩ := unreadable
        have read := Flags.resolve_of_unread FileSystem.disk invocation.environment named
          ((congrArg Prod.fst (system.readText_eq path)).trans unread)
        cases found.symm.trans read
        exact .unreadable named unread
      · have readable : ∀ path, invocation.line.flags.config = some path →
            ∃ text, system.textAt path = .ok text := by
          intro path named
          cases read : system.textAt path with
          | ok text => exact ⟨text, rfl⟩
          | error cause => exact (unreadable ⟨path, cause, named, read⟩).elim
        have configuration :=
          Flags.onlyConfiguration_resolve FileSystem.disk invocation.environment system _
            (fun path named => by
              simpa only [FileSystem.readText_eq] using readable path named) error found
        rw [Outcome.of_configuration configuration]
        exact .misconfigured readable found

/-- A way for a run to end is how it ends. -/
theorem Ends.run_eq {outcome : Outcome} {after : FileSystem}
    (ends : invocation.Ends codec system outcome after) :
    invocation.run codec system = (outcome, after) := by
  cases ends with
  | unreadable named unread =>
      have read := Flags.resolve_of_unread FileSystem.disk invocation.environment named
        ((congrArg Prod.fst (system.readText_eq _)).trans unread)
      rw [run_of_error read]
      rfl
  | misconfigured readable fails =>
      have configuration :=
        Flags.onlyConfiguration_resolve FileSystem.disk invocation.environment system _
          (fun path named => by
            simpa only [FileSystem.readText_eq] using readable path named) _ fails
      rw [run_of_error fails, Outcome.of_configuration configuration]
  | unsupported resolves server => exact run_of_server resolves server
  | performed resolves reached performs =>
      obtain ⟨connected, connects, ran⟩ := run_of_client codec resolves reached
      obtain ⟨shown, left⟩ := performs.perform_eq connects
      rw [ran, shown, left]

/-- How the command ends over the client that a run reaches is how the run ends. -/
theorem run_of_performs {config : StoreConfig} {client : Client (StateM FileSystem)}
    {command : Command} {outcome : Outcome} {after : FileSystem}
    (resolves : invocation.Resolves system config)
    (reached : config.backend.client? = some client) (given : invocation.line.command = command)
    (performs : Performs client (.ofConfig config) codec system command outcome after) :
    invocation.run codec system = (outcome, after) :=
  Ends.run_eq (.performed resolves reached (given ▸ performs))

/-- A run that reaches a client ends as its command does over it. -/
theorem exists_performs (codec : Codec Value) {config : StoreConfig}
    {client : Client (StateM FileSystem)} {command : Command}
    (resolves : invocation.Resolves system config)
    (reached : config.backend.client? = some client) (given : invocation.line.command = command) :
    ∃ outcome after, invocation.run codec system = (outcome, after) ∧
      Performs client (.ofConfig config) codec system command outcome after :=
  ⟨_, _, rfl, given ▸ performs_run codec resolves reached⟩

end Run

end Invocation

end PipelineDepot
