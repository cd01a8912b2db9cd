import PipelineDepot.CommandLine.Resolution
import PipelineDepot.Proofs.Config.Check

/-! # What counts before what

A run takes its configuration from one of three places (`Flags.Sourced`), and each setting on the
command line goes on top of the one it is about (`Flags.Overlays`). What comes of it is checked as a
whole and returned as it is or not at all: `Flags.Resolution` lists what a run may come to, and
resolving comes to that and to nothing else (`Flags.resolution_iff`).
-/

namespace PipelineDepot

/-- What is made of a reply is made of it in the state that the call left. -/
theorem bind_pure_apply {σ α β : Type} (call : StateM σ α) (finish : α → β) (state : σ) :
    (do return finish (← call) : StateM σ β) state = (finish (call state).1, (call state).2) :=
  rfl

/-- The endpoint that a backend names; only a server has one. -/
def Backend.endpoint? : Backend → Option String
  | s3 settings => settings.endpoint
  | memory | directory _ => none

namespace Flags

/-- What the settings make of a configuration. A setting that is given counts before the one it is
about. The region and the keys of a server outlive a change of the backend only where the old one
and the new one are servers; a root does not outlive the naming of the backend, even of the same
one. -/
structure Overlays (flags : Flags) (source merged : StoreConfig) : Prop where
  bucketName : merged.bucketName = flags.bucket.getD source.bucketName
  baseFolder : merged.baseFolder = flags.baseFolder.getD source.baseFolder
  multipart_given : flags.multipart = true → merged.disableMultipart = false
  multipart_absent : flags.multipart = false → merged.disableMultipart = source.disableMultipart
  kind : merged.backend.kind = flags.backend.getD source.backend.kind
  endpoint : ∀ settings, merged.backend = .s3 settings →
    settings.endpoint = flags.endpoint.or source.backend.endpoint?
  server_kept : ∀ settings, merged.backend = .s3 settings → ∀ kept, source.backend = .s3 kept →
    settings.region = kept.region ∧ settings.accessKey = kept.accessKey ∧
      settings.secretKey = kept.secretKey
  server_new : ∀ settings, merged.backend = .s3 settings → source.backend.kind ≠ .s3 →
    settings.region = "us-east-1" ∧ settings.accessKey = none ∧ settings.secretKey = none
  root_given : ∀ root, merged.backend = .directory root → ∀ given, flags.root = some given →
    root = given
  root_kept : ∀ root, merged.backend = .directory root → flags.root = none →
    flags.backend = none → source.backend = .directory root
  root_new : ∀ root, merged.backend = .directory root → flags.root = none →
    flags.backend ≠ none → root = "./data"

section Merge

variable {flags : Flags} {source : Backend}

/-- The backend flag decides the kind, where it is given. -/
theorem mergeBackend_kind (flags : Flags) (source : Backend) :
    (flags.mergeBackend source).kind = flags.backend.getD source.kind := by
  unfold mergeBackend
  cases flags.backend.getD source.kind <;> cases source <;> rfl

/-- A server made of a server keeps its settings, save for the endpoint. -/
theorem mergeBackend_s3 {kept settings : S3Settings}
    (merged : flags.mergeBackend (.s3 kept) = .s3 settings) :
    settings = { kept with endpoint := flags.endpoint.or kept.endpoint } := by
  unfold mergeBackend at merged
  cases kind : flags.backend.getD (Backend.s3 kept).kind <;> rw [kind] at merged <;> cases merged
  rfl

/-- A server made of anything else is a new one. -/
theorem mergeBackend_of_ne_s3 {settings : S3Settings} (other : source.kind ≠ .s3)
    (merged : flags.mergeBackend source = .s3 settings) :
    settings = { endpoint := flags.endpoint } := by
  unfold mergeBackend at merged
  cases source with
  | s3 _ => exact (other rfl).elim
  | memory | directory _ =>
      cases kind : flags.backend.getD _ <;> rw [kind] at merged <;> cases merged
      rfl

/-- A directory has the root that is given, the old one where nothing names the backend, or the
default one. -/
theorem mergeBackend_directory {root : String}
    (merged : flags.mergeBackend source = .directory root) :
    (∀ given, flags.root = some given → root = given) ∧
      (flags.root = none → (flags.backend = none → source = .directory root) ∧
        (flags.backend ≠ none → root = defaultRoot)) := by
  unfold mergeBackend at merged
  cases given : flags.root with
  | some other =>
      have taken : root = other := by
        rw [given] at merged
        cases kind : flags.backend.getD source.kind <;> rw [kind] at merged <;> cases source <;>
          cases merged <;> rfl
      exact ⟨fun _ same => taken.trans (Option.some.inj same), nofun⟩
  | none =>
      refine ⟨nofun, fun _ => ?_⟩
      rw [given] at merged
      cases named : flags.backend with
      | none =>
          rw [named] at merged
          cases source <;> cases merged
          exact ⟨fun _ => rfl, fun absent => (absent rfl).elim⟩
      | some kind =>
          rw [named] at merged
          cases kind <;> cases source <;> cases merged <;> exact ⟨nofun, fun _ => rfl⟩

end Merge

/-- The settings make of a configuration what they are said to make of it. -/
theorem overlays_merge (flags : Flags) (source : StoreConfig) :
    flags.Overlays source (flags.merge source) where
  bucketName := rfl
  baseFolder := rfl
  multipart_given given := by simp only [merge, given, Bool.not_true, Bool.and_false]
  multipart_absent absent := by simp only [merge, absent, Bool.not_false, Bool.and_true]
  kind := flags.mergeBackend_kind source.backend
  endpoint settings merged := by
    change flags.mergeBackend source.backend = _ at merged
    cases held : source.backend with
    | s3 kept =>
        rw [held] at merged
        rw [mergeBackend_s3 merged]
        rfl
    | memory | directory _ =>
        rw [mergeBackend_of_ne_s3 (by rw [held]; nofun) merged]
        exact (Option.or_none).symm
  server_kept settings merged kept server := by
    change flags.mergeBackend source.backend = _ at merged
    rw [server] at merged
    rw [mergeBackend_s3 merged]
    exact ⟨rfl, rfl, rfl⟩
  server_new settings merged other := by
    rw [mergeBackend_of_ne_s3 other merged]
    exact ⟨rfl, rfl, rfl⟩
  root_given root merged := (mergeBackend_directory merged).1
  root_kept root merged absent := ((mergeBackend_directory merged).2 absent).1
  root_new root merged absent := ((mergeBackend_directory merged).2 absent).2

/-- Naming the backend that is in force all the same puts the default root in the place of its
own. -/
example :
    Flags.merge { backend := some .directory } ⟨"bkt", "", true, .directory "store"⟩ =
      ⟨"bkt", "", true, .directory "./data"⟩ :=
  rfl

namespace Overlays

variable {flags : Flags} {source first second : StoreConfig}

/-- An overlay decides the root of a directory. -/
theorem root_unique (one : flags.Overlays source first) (other : flags.Overlays source second)
    {root otherRoot : String} (former : first.backend = .directory root)
    (latter : second.backend = .directory otherRoot) : root = otherRoot := by
  cases given : flags.root with
  | some _ =>
      exact (one.root_given _ former _ given).trans (other.root_given _ latter _ given).symm
  | none =>
      by_cases unnamed : flags.backend = none
      · have kept := one.root_kept _ former given unnamed
        exact Backend.directory.inj (kept.symm.trans (other.root_kept _ latter given unnamed))
      · exact (one.root_new _ former given unnamed).trans
          (other.root_new _ latter given unnamed).symm

/-- An overlay decides the settings of a server. -/
theorem server_unique (one : flags.Overlays source first) (other : flags.Overlays source second)
    {settings otherSettings : S3Settings} (former : first.backend = .s3 settings)
    (latter : second.backend = .s3 otherSettings) : settings = otherSettings := by
  have endpoint := (one.endpoint _ former).trans (other.endpoint _ latter).symm
  have rest : settings.region = otherSettings.region ∧
      settings.accessKey = otherSettings.accessKey ∧
        settings.secretKey = otherSettings.secretKey := by
    by_cases server : source.backend.kind = .s3
    · obtain ⟨kept, held⟩ : ∃ kept, source.backend = .s3 kept := by
        cases held : source.backend with
        | s3 kept => exact ⟨kept, rfl⟩
        | memory | directory _ => rw [held] at server; cases server
      obtain ⟨region, access, secret⟩ := one.server_kept _ former _ held
      obtain ⟨otherRegion, otherAccess, otherSecret⟩ := other.server_kept _ latter _ held
      exact ⟨region.trans otherRegion.symm, access.trans otherAccess.symm,
        secret.trans otherSecret.symm⟩
    · obtain ⟨region, access, secret⟩ := one.server_new _ former server
      obtain ⟨otherRegion, otherAccess, otherSecret⟩ := other.server_new _ latter server
      exact ⟨region.trans otherRegion.symm, access.trans otherAccess.symm,
        secret.trans otherSecret.symm⟩
  cases settings
  cases otherSettings
  simp only [S3Settings.mk.injEq] at endpoint rest ⊢
  exact ⟨endpoint, rest⟩

/-- What is said of the settings leaves room for one configuration only. -/
theorem unique (one : flags.Overlays source first) (other : flags.Overlays source second) :
    first = second := by
  have transfers : first.disableMultipart = second.disableMultipart := by
    cases given : flags.multipart with
    | true => exact (one.multipart_given given).trans (other.multipart_given given).symm
    | false => exact (one.multipart_absent given).trans (other.multipart_absent given).symm
  have backends : first.backend = second.backend := by
    have kinds := one.kind.trans other.kind.symm
    cases former : first.backend <;> cases latter : second.backend <;>
      rw [former, latter] at kinds <;> cases kinds
    · rw [one.root_unique other former latter]
    · rw [one.server_unique other former latter]
  have buckets := one.bucketName.trans other.bucketName.symm
  have folders := one.baseFolder.trans other.baseFolder.symm
  cases first
  cases second
  simp only [StoreConfig.mk.injEq] at transfers backends buckets folders ⊢
  exact ⟨buckets, folders, transfers, backends⟩

end Overlays

section Resolve

variable [UrlReader] [TomlReader] {σ : Type} (disk : Files.Disk (StateM σ))
  (environment : Environment) (state : σ)

/-- Where a configuration comes from: the file that is named, else the defaults for the bucket that
is named, else the environment. The file alone says how the log is written. -/
structure Sourced (flags : Flags) (outcome : Except StoreError Resolved) : Prop where
  file : ∀ path, flags.config = some path →
    outcome = (ConfigFile.load disk environment path state).1.map fun file =>
      ⟨file.store, file.jsonLogging⟩
  bucket : flags.config = none → ∀ bucket, flags.bucket = some bucket →
    outcome = .ok ⟨⟨bucket, "pipelines", true, .directory "./data"⟩, false⟩
  environment : flags.config = none → flags.bucket = none →
    outcome = environment.config.map fun store => ⟨store, false⟩

/-- What a run comes to before its command: the error of the place that the configuration comes
from, the error of the check, or the configuration with the settings on top. -/
inductive Resolution (flags : Flags) : Except StoreError Resolved → Prop
  | unsourced {error} (sourced : flags.Sourced disk environment state (.error error)) :
      Resolution flags (.error error)
  | refused {source merged error} (sourced : flags.Sourced disk environment state (.ok source))
      (overlays : flags.Overlays source.store merged) (unsound : merged.validate = .error error) :
      Resolution flags (.error error)
  | resolved {source merged} (sourced : flags.Sourced disk environment state (.ok source))
      (overlays : flags.Overlays source.store merged) (sound : merged.validate = .ok ()) :
      Resolution flags (.ok ⟨merged, source.jsonLogging⟩)

/-- A file that is named is the source, whatever bucket is named beside it. -/
theorem source_of_config {flags : Flags} {path : String} (named : flags.config = some path) :
    flags.source disk environment =
      do return (← ConfigFile.load disk environment path).map fun file =>
        ⟨file.store, file.jsonLogging⟩ := by
  simp only [source, named]
  apply bind_congr
  intro file
  cases file <;> rfl

/-- The source is where a configuration comes from. -/
theorem sourced_source (flags : Flags) :
    flags.Sourced disk environment state (flags.source disk environment state).1 where
  file path named := by
    rw [source_of_config disk environment named, bind_pure_apply]
  bucket absent bucket named := by
    simp only [source, absent, named]
    rfl
  environment absent unnamed := by
    simp only [source, absent, unnamed]
    rfl

variable {disk environment state}

/-- A configuration comes from the source and from nowhere else. -/
theorem Sourced.source_eq {flags : Flags} {outcome : Except StoreError Resolved}
    (sourced : flags.Sourced disk environment state outcome) :
    (flags.source disk environment state).1 = outcome := by
  have found := flags.sourced_source disk environment state
  cases named : flags.config with
  | some path => exact (found.file path named).trans (sourced.file path named).symm
  | none =>
      cases bucketed : flags.bucket with
      | some bucket =>
          exact (found.bucket named bucket bucketed).trans
            (sourced.bucket named bucket bucketed).symm
      | none =>
          exact (found.environment named bucketed).trans (sourced.environment named bucketed).symm

omit [TomlReader] in
/-- What does not pass is refused with the error of the check. -/
theorem complete_of_error {flags : Flags} {source : Resolved} {error : StoreError}
    (unsound : (flags.merge source.store).validate = .error error) :
    flags.complete source = .error error := by
  simp only [complete, unsound]
  rfl

omit [TomlReader] in
/-- What passes is returned as it is. -/
theorem complete_of_ok {flags : Flags} {source : Resolved}
    (sound : (flags.merge source.store).validate = .ok ()) :
    flags.complete source = .ok ⟨flags.merge source.store, source.jsonLogging⟩ := by
  simp only [complete, sound]
  rfl

variable (disk environment state) in
/-- Resolving puts the settings on top of the source; only the source touches the disk. -/
theorem resolve_eq (flags : Flags) :
    flags.resolve disk environment state =
      ((flags.source disk environment state).1 >>= flags.complete,
        (flags.source disk environment state).2) := by
  have whole : flags.resolve disk environment =
      do return (← flags.source disk environment) >>= flags.complete := by
    unfold resolve
    apply bind_congr
    intro source
    cases source <;> rfl
  rw [whole, bind_pure_apply]

variable (disk environment state) in
/-- Resolving comes to something a run may come to. -/
theorem resolution_resolve (flags : Flags) :
    flags.Resolution disk environment state (flags.resolve disk environment state).1 := by
  have sourced := flags.sourced_source disk environment state
  rw [resolve_eq]
  cases found : (flags.source disk environment state).1 with
  | error error => exact .unsourced (found ▸ sourced)
  | ok source =>
      change flags.Resolution disk environment state (flags.complete source)
      have overlays := flags.overlays_merge source.store
      cases checked : (flags.merge source.store).validate with
      | error error =>
          rw [complete_of_error checked]
          exact .refused (found ▸ sourced) overlays checked
      | ok _ =>
          rw [complete_of_ok checked]
          exact .resolved (found ▸ sourced) overlays checked

/-- What a run may come to is what resolving comes to. -/
theorem Resolution.resolve_eq {flags : Flags} {outcome : Except StoreError Resolved}
    (comes : flags.Resolution disk environment state outcome) :
    (flags.resolve disk environment state).1 = outcome := by
  rw [Flags.resolve_eq]
  cases comes with
  | unsourced sourced =>
      rw [sourced.source_eq]
      rfl
  | @refused source merged error sourced overlays unsound =>
      obtain rfl := overlays.unique (flags.overlays_merge source.store)
      rw [sourced.source_eq]
      exact complete_of_error unsound
  | @resolved source merged sourced overlays sound =>
      obtain rfl := overlays.unique (flags.overlays_merge source.store)
      rw [sourced.source_eq]
      exact complete_of_ok sound

/-- **A run comes to its configuration by priority.** Whatever the settings, the disk and the
environment, resolving gives what a run may come to and nothing else; a configuration that it gives
is sound, and the keys in it come in a pair. -/
theorem resolution_iff (flags : Flags) (disk : Files.Disk (StateM σ)) (environment : Environment)
    (state : σ) :
    (∀ outcome, flags.Resolution disk environment state outcome ↔
      (flags.resolve disk environment state).1 = outcome) ∧
    ∀ resolved, (flags.resolve disk environment state).1 = .ok resolved →
      resolved.store.validate = .ok () ∧
        ∀ settings, resolved.store.backend = .s3 settings →
          settings.accessKey.isSome = settings.secretKey.isSome := by
  constructor
  · intro outcome
    constructor
    · exact Resolution.resolve_eq
    · rintro rfl
      exact flags.resolution_resolve disk environment state
  · intro resolved resolves
    have comes := flags.resolution_resolve disk environment state
    rw [resolves] at comes
    cases comes with
    | resolved _ _ sound => exact ⟨sound, fun _ => StoreConfig.keys_paired sound⟩

end Resolve

end Flags

end PipelineDepot
