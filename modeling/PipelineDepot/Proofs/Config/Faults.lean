import PipelineDepot.Proofs.Config.Names

/-! # What is wrong with a configuration

Everything that is read into a configuration and every check of it fails with an error about the
configuration. The one exception is a configuration file that cannot be read, where the error is
that of the file system (`Flags.onlyConfiguration_resolve`).
-/

namespace PipelineDepot

/-- The only errors are errors about the configuration. -/
def OnlyConfiguration {α : Type} (outcome : Except StoreError α) : Prop :=
  ∀ error, outcome = .error error → error.category = .configuration

namespace OnlyConfiguration

variable {α β : Type}

theorem ok (value : α) : OnlyConfiguration (.ok value) := nofun

theorem error {fault : StoreError} (about : fault.category = .configuration) :
    OnlyConfiguration (.error fault : Except StoreError α) := by
  intro other same
  cases same
  exact about

/-- Checks made one after the other fail only with faults of the configuration if each does. -/
theorem bind {first : Except StoreError α} {next : α → Except StoreError β}
    (here : OnlyConfiguration first) (later : ∀ value, OnlyConfiguration (next value)) :
    OnlyConfiguration (first >>= next) := by
  cases first with
  | error fault => exact .error (here fault rfl)
  | ok value => exact later value

theorem map {outcome : Except StoreError α} (here : OnlyConfiguration outcome) (change : α → β) :
    OnlyConfiguration (outcome.map change) := by
  cases outcome with
  | error fault => exact .error (here fault rfl)
  | ok value => exact .ok _

end OnlyConfiguration

namespace Validation

variable (field value : String)

theorem onlyConfiguration_ensure (kept : Bool) (reason : String) :
    OnlyConfiguration (ensure kept field value reason) := by
  unfold ensure
  split
  next => exact .ok ()
  next => exact .error rfl

theorem onlyConfiguration_url [UrlReader] : OnlyConfiguration (url field value) := by
  refine (onlyConfiguration_ensure field value _ _).bind fun _ => ?_
  split
  next => exact .error rfl
  next => exact onlyConfiguration_ensure field value _ _

theorem onlyConfiguration_path : OnlyConfiguration (path field value) :=
  (onlyConfiguration_ensure field value _ _).bind fun _ => onlyConfiguration_ensure field value _ _

theorem onlyConfiguration_bucketName : OnlyConfiguration (bucketName field value) := by
  refine (onlyConfiguration_ensure field value _ _).bind fun _ => ?_
  refine (onlyConfiguration_ensure field value _ _).bind fun _ => ?_
  refine (onlyConfiguration_ensure field value _ _).bind fun _ => ?_
  exact onlyConfiguration_ensure field value _ _

theorem onlyConfiguration_region : OnlyConfiguration (region field value) :=
  (onlyConfiguration_ensure field value _ _).bind fun _ => onlyConfiguration_ensure field value _ _

end Validation

theorem S3Settings.onlyConfiguration_validate [UrlReader] (settings : S3Settings) :
    OnlyConfiguration settings.validate := by
  have rest : OnlyConfiguration (do
      Validation.region "backend.region" settings.region
      if settings.accessKey.isSome != settings.secretKey.isSome then .error unpairedKeys
      else .ok ()) := by
    refine (Validation.onlyConfiguration_region _ settings.region).bind fun _ => ?_
    split
    next => exact .error rfl
    next => exact .ok ()
  unfold validate
  cases settings.endpoint with
  | none => exact (OnlyConfiguration.ok ()).bind fun _ => rest
  | some endpoint => exact (Validation.onlyConfiguration_url _ endpoint).bind fun _ => rest

theorem Backend.onlyConfiguration_validate [UrlReader] (backend : Backend) :
    OnlyConfiguration backend.validate := by
  cases backend with
  | memory => exact .ok ()
  | directory root => exact Validation.onlyConfiguration_path _ root
  | s3 settings => exact settings.onlyConfiguration_validate

/-- All that the checks of a configuration can find is a fault of its settings. -/
theorem StoreConfig.onlyConfiguration_validate [UrlReader] (config : StoreConfig) :
    OnlyConfiguration config.validate :=
  (Validation.onlyConfiguration_bucketName _ config.bucketName).bind fun _ =>
    (Validation.onlyConfiguration_ensure _ config.baseFolder _ _).bind fun _ =>
      config.backend.onlyConfiguration_validate

namespace Environment

variable (environment : Environment)

theorem onlyConfiguration_disableMultipart : OnlyConfiguration environment.disableMultipart := by
  unfold disableMultipart
  cases environment "OBJECT_STORE_DISABLE_MULTIPART" with
  | none => exact .ok true
  | some value =>
      simp only [readFlag]
      split
      next => exact .ok true
      next =>
        split
        next => exact .ok false
        next => exact .error rfl

theorem onlyConfiguration_backend : OnlyConfiguration environment.backend := by
  unfold Environment.backend
  simp only
  split
  next => exact .ok _
  next => exact .ok _
  next => exact .ok _
  next => exact .error rfl

/-- Reading a configuration from the environment fails only with a fault of the configuration. -/
theorem onlyConfiguration_config : OnlyConfiguration environment.config := by
  unfold config
  cases environment "OBJECT_STORE_BUCKET" with
  | none =>
      have refused : OnlyConfiguration (.error (.missing "OBJECT_STORE_BUCKET") :
        Except StoreError StoreConfig) := .error rfl
      exact refused
  | some name =>
      refine (OnlyConfiguration.ok name).bind fun _ => ?_
      refine environment.onlyConfiguration_disableMultipart.bind fun _ => ?_
      exact environment.onlyConfiguration_backend.bind fun _ => .ok _

end Environment

namespace ConfigFile

theorem onlyConfiguration_validate [UrlReader] (file : ConfigFile) :
    OnlyConfiguration file.validate := by
  refine file.store.onlyConfiguration_validate.bind fun _ => ?_
  cases file.logging with
  | none => exact .ok ()
  | some logging =>
      simp only [LogConfig.validate]
      split
      next => exact .ok ()
      next =>
        split
        next => exact .ok ()
        next => exact .error rfl

/-- Reading a file of settings fails only with a fault of the configuration, whatever its text. -/
theorem onlyConfiguration_ofText [UrlReader] [TomlReader] (environment : Environment)
    (text : String) : OnlyConfiguration (ofText environment text) := by
  unfold ofText
  split
  next => exact .error rfl
  next file _ => exact file.onlyConfiguration_validate.bind fun _ => .ok file

end ConfigFile

/-! ## Files that cannot be read -/

section Resolve

variable [UrlReader] [TomlReader] {σ : Type} (disk : Files.Disk (StateM σ))
  (environment : Environment) (state : σ)

namespace Flags

variable (flags : Flags)

omit [TomlReader] in
/-- Settings that flags cannot complete are a fault of the configuration. -/
theorem onlyConfiguration_complete (source : Resolved) :
    OnlyConfiguration (flags.complete source) :=
  (StoreConfig.onlyConfiguration_validate _).bind fun _ => .ok _

/-- Resolving does to the disk what reading the configuration file does. -/
theorem resolve_snd :
    (flags.resolve disk environment state).2 =
      match flags.config with
      | none => state
      | some path => (disk.readText path state).2 := by
  rw [resolve_eq]
  cases named : flags.config with
  | none =>
      simp only [source, named]
      cases flags.bucket <;> rfl
  | some path =>
      rw [source_of_config disk environment named, bind_pure_apply, ConfigFile.load_eq,
        bind_pure_apply]

variable {path : String}

variable {state flags} in
/-- A file of settings that cannot be read is an error of its own, and nothing else is looked at. -/
theorem resolve_of_unread {cause : FileError} (named : flags.config = some path)
    (unread : (disk.readText path state).1 = .error cause) :
    (flags.resolve disk environment state).1 = .error (.io cause) := by
  rw [resolve_eq, (flags.sourced_source disk environment state).file path named,
    ConfigFile.load_eq, bind_pure_apply, unread]
  rfl

/-- Apart from a configuration file that cannot be read, only the configuration is ever at fault. -/
theorem onlyConfiguration_resolve
    (readable : ∀ path, flags.config = some path →
      ∃ text, (disk.readText path state).1 = .ok text) :
    OnlyConfiguration (flags.resolve disk environment state).1 := by
  rw [resolve_eq]
  refine OnlyConfiguration.bind ?_ flags.onlyConfiguration_complete
  cases named : flags.config with
  | some path =>
      obtain ⟨text, read⟩ := readable path named
      rw [(flags.sourced_source disk environment state).file path named, ConfigFile.load_eq,
        bind_pure_apply, read]
      exact (ConfigFile.onlyConfiguration_ofText environment text).map _
  | none =>
      simp only [source, named]
      cases flags.bucket with
      | some bucket => exact .ok _
      | none => exact environment.onlyConfiguration_config.map _

end Flags

end Resolve

end PipelineDepot
