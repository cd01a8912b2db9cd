import PipelineDepot.Files.Tree
import PipelineDepot.Proofs.Config.Priority
import PipelineDepot.Readers

/-! # Naming the backend in force

Settings that name no backend leave the choice to the place that the configuration comes from. To
name the backend that comes out is not quite to leave the choice: memory and a server keep what
they have, but a directory keeps only a root that is given beside it (`Flags.renamed`). So naming
the backend in force always resolves again, to the same configuration but for the root of a
directory (`Flags.resolve_naming`), and that root is lost unless it is given or is the default one.
-/

namespace PipelineDepot

namespace Flags

/-- The settings, with a backend named. -/
def naming (flags : Flags) (kind : BackendKind) : Flags := { flags with backend := some kind }

/-- What becomes of a backend in force when it is named. -/
def renamed (flags : Flags) : Backend → Backend
  | .memory => .memory
  | .directory _ => .directory (flags.root.getD "./data")
  | .s3 settings => .s3 settings

/-- A backend in force stays when it is named, unless it is a directory whose root is neither
given nor the default one. -/
theorem renamed_mergeBackend_iff (flags : Flags) (source : Backend) :
    flags.renamed (flags.mergeBackend source) = flags.mergeBackend source ↔
      ∀ root, flags.mergeBackend source = .directory root → flags.root = none →
        root = "./data" := by
  cases merged : flags.mergeBackend source with
  | memory => exact ⟨fun _ => nofun, fun _ => rfl⟩
  | s3 settings => exact ⟨fun _ => nofun, fun _ => rfl⟩
  | directory root =>
      rw [renamed, Backend.directory.injEq]
      cases given : flags.root with
      | none =>
          constructor
          · rintro same _ ⟨⟩ -
            exact same.symm
          · intro default_
            exact (default_ root rfl rfl).symm
      | some other =>
          have same : root = other := (mergeBackend_directory merged).1 other given
          exact ⟨fun _ _ _ => nofun, fun _ => same.symm⟩

/-- A sound backend stays sound when it is named. -/
theorem validate_renamed [UrlReader] (flags : Flags) {source : Backend}
    (sound : (flags.mergeBackend source).validate = .ok ()) :
    (flags.renamed (flags.mergeBackend source)).validate = .ok () := by
  cases merged : flags.mergeBackend source with
  | memory => rfl
  | s3 settings =>
      rw [merged] at sound
      exact sound
  | directory root =>
      cases given : flags.root with
      | none =>
          rw [renamed, given]
          rfl
      | some other =>
          have stays := (flags.renamed_mergeBackend_iff source).mpr fun _ _ absent =>
            nomatch given.symm.trans absent
          rw [← merged, stays]
          exact sound

section Merge

variable {flags : Flags} (unnamed : flags.backend = none)
include unnamed

theorem mergeBackend_naming (source : Backend) :
    (flags.naming (flags.mergeBackend source).kind).mergeBackend source =
      flags.renamed (flags.mergeBackend source) := by
  rw [mergeBackend_kind, unnamed]
  unfold mergeBackend
  rw [unnamed]
  cases source <;> rfl

/-- Naming the backend that is used anyway changes nothing but its root. -/
theorem merge_naming (source : StoreConfig) :
    (flags.naming (flags.merge source).backend.kind).merge source =
      { flags.merge source with backend := flags.renamed (flags.merge source).backend } :=
  congrArg (StoreConfig.mk _ _ _) (mergeBackend_naming unnamed source.backend)

/-- What passed the checks still passes when its backend is named. -/
theorem validate_merge_naming [UrlReader] {source : StoreConfig}
    (sound : (flags.merge source).validate = .ok ()) :
    ((flags.naming (flags.merge source).backend.kind).merge source).validate = .ok () := by
  rw [merge_naming unnamed]
  obtain ⟨bucket, folder, backend⟩ := StoreConfig.validate_eq_ok_iff.mp sound
  exact StoreConfig.validate_eq_ok_iff.mpr ⟨bucket, folder, flags.validate_renamed backend⟩

end Merge

section Resolve

variable [UrlReader] [TomlReader] {σ : Type} {disk : Files.Disk (StateM σ)}
  {environment : Environment} {state : σ}

/-- The backend flag has no say in where the settings come from. -/
theorem source_naming (flags : Flags) (kind : BackendKind) :
    (flags.naming kind).source disk environment = flags.source disk environment := rfl

/-- **Naming the backend in force keeps all but the root of a directory.** Where settings that name
no backend resolve, the same settings with the kind of the backend that comes out resolve too, to
the same configuration with the backend renamed. That is the configuration itself exactly when no
root is lost. -/
theorem resolve_naming {flags : Flags} (unnamed : flags.backend = none) {resolved : Resolved}
    (resolves : (flags.resolve disk environment state).1 = .ok resolved) :
    (flags.naming resolved.store.backend.kind).resolve disk environment state =
      (.ok { resolved with store.backend := flags.renamed resolved.store.backend },
        (flags.resolve disk environment state).2) ∧
    ((flags.naming resolved.store.backend.kind).resolve disk environment state =
        flags.resolve disk environment state ↔
      ∀ root, resolved.store.backend = .directory root → flags.root = none →
        root = "./data") := by
  have comes := flags.resolution_resolve disk environment state
  rw [resolves] at comes
  cases comes with
  | @resolved source merged sourced overlays sound =>
      obtain rfl := overlays.unique (flags.overlays_merge source.store)
      have named : (flags.naming (flags.merge source.store).backend.kind).resolve disk environment
            state =
          (.ok ⟨{ flags.merge source.store with
              backend := flags.renamed (flags.merge source.store).backend }, source.jsonLogging⟩,
            (flags.resolve disk environment state).2) := by
        rw [resolve_eq, resolve_eq, source_naming, sourced.source_eq]
        refine Prod.ext ?_ rfl
        change (flags.naming _).complete source = _
        rw [complete_of_ok (validate_merge_naming unnamed sound), merge_naming unnamed]
      refine ⟨named, ?_⟩
      rw [named]
      have stays_iff := flags.renamed_mergeBackend_iff source.store.backend
      constructor
      · intro same
        have again := Except.ok.inj ((congrArg Prod.fst same).trans resolves)
        exact stays_iff.mp (congrArg (fun resolved => resolved.store.backend) again)
      · intro kept
        have stays : flags.renamed (flags.merge source.store).backend =
            (flags.merge source.store).backend := stays_iff.mpr kept
        rw [stays]
        exact Prod.ext resolves.symm rfl

end Resolve

/-- An environment with a server in a region of its own. -/
def ownServer : Environment :=
  .ofPairs [("OBJECT_STORE_BUCKET", "mlpipeline"), ("OBJECT_STORE_BACKEND", "s3"),
    ("OBJECT_STORE_REGION", "eu-west-1"), ("OBJECT_STORE_ACCESS_KEY", "minio"),
    ("OBJECT_STORE_SECRET_KEY", "minio123")]

/-- The region and the keys of a server outlive its naming. -/
theorem resolve_naming_ownServer :
    (resolve {} Files.FileSystem.disk ownServer ⟨.dir [], []⟩).1 =
      .ok ⟨⟨"mlpipeline", "pipelines", true,
        .s3 ⟨none, "eu-west-1", some "minio", some "minio123"⟩⟩, false⟩ ∧
    resolve { backend := some .s3 } Files.FileSystem.disk ownServer ⟨.dir [], []⟩ =
      resolve {} Files.FileSystem.disk ownServer ⟨.dir [], []⟩ := by
  have resolves : (resolve {} Files.FileSystem.disk ownServer ⟨.dir [], []⟩).1 =
      .ok ⟨⟨"mlpipeline", "pipelines", true,
        .s3 ⟨none, "eu-west-1", some "minio", some "minio123"⟩⟩, false⟩ := rfl
  exact ⟨resolves, (resolve_naming rfl resolves).2.mpr nofun⟩

/-- An environment with a root of its own. -/
def ownRoot : Environment :=
  .ofPairs [("OBJECT_STORE_BUCKET", "mlpipeline"), ("OBJECT_STORE_LOCAL_ROOT", "/srv/objects")]

/-- A root from the environment does not outlive the naming of its directory. -/
theorem root_lost :
    (resolve {} Files.FileSystem.disk ownRoot ⟨.dir [], []⟩).1 =
      .ok ⟨⟨"mlpipeline", "pipelines", true, .directory "/srv/objects"⟩, false⟩ ∧
    (resolve { backend := some .directory } Files.FileSystem.disk ownRoot ⟨.dir [], []⟩).1 =
      .ok ⟨⟨"mlpipeline", "pipelines", true, .directory "./data"⟩, false⟩ :=
  ⟨rfl, rfl⟩

end Flags

end PipelineDepot
