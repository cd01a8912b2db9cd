import PipelineDepot.Files.Tree
import PipelineDepot.Proofs.Config.Priority
import PipelineDepot.Readers

/-! # The variables that a run looks at

What a run is configured by depends on few variables of its environment (`Flags.asked`): beside a
configuration file on those that the file refers to, beside a bucket on none, and else on those of
the store and of the backend that is chosen. Two environments that agree on these give the same
configuration or the same error (`Flags.resolve_congr`).
-/

namespace PipelineDepot

variable {one other : Environment}

/-! ## References in a file -/

namespace Config

theorem referenceValue_congr {name : List Char}
    (same : one (String.ofList name) = other (String.ofList name)) :
    referenceValue one name = referenceValue other name := by
  simp only [referenceValue, same]

/-- A text is filled in by the variables that it refers to. -/
theorem substitute_congr {text : String} (same : ∀ name ∈ references text, one name = other name) :
    substitute one text = substitute other text := by
  have filled : ∀ reference ∈ (pieces text.toList).references,
      referenceValue one reference.1 ++ reference.2 =
        referenceValue other reference.1 ++ reference.2 := by
    intro reference member
    rw [referenceValue_congr (same _ (List.mem_map.mpr ⟨reference, member, rfl⟩))]
  simp only [substitute, Pieces.fill, List.flatMap_def, List.map_congr_left filled]

end Config

namespace ConfigFile

variable [UrlReader] [TomlReader]

/-- Loading a file reads it from the disk and takes what its text holds. -/
theorem load_eq {m : Type → Type} [Monad m] (disk : Files.Disk m) (environment : Environment)
    (path : String) :
    load disk environment path =
      do return (← disk.readText path).mapError .io >>= ofText environment := by
  unfold load
  apply bind_congr
  intro text
  cases text <;> rfl

/-- The text of a file is read by the variables that it refers to. -/
theorem ofText_congr {text : String}
    (same : ∀ name ∈ Config.references text, one name = other name) :
    ofText one text = ofText other text := by
  unfold ofText
  rw [Config.substitute_congr same]

/-- A file is read by the variables that it refers to. -/
theorem load_congr {σ : Type} {disk : Files.Disk (StateM σ)} {path : String} {state : σ}
    (same : ∀ text, (disk.readText path state).1 = .ok text →
      ∀ name ∈ Config.references text, one name = other name) :
    load disk one path state = load disk other path state := by
  rw [load_eq, load_eq, bind_pure_apply, bind_pure_apply]
  have read : (disk.readText path state).1.mapError StoreError.io >>= ofText one =
      (disk.readText path state).1.mapError StoreError.io >>= ofText other := by
    cases found : (disk.readText path state).1 with
    | error cause => exact Eq.refl (Except.error (StoreError.io cause))
    | ok text => exact ofText_congr (same text found)
  rw [read]

end ConfigFile

/-! ## The variables of the store -/

theorem BackendKind.name_of_ofName? {name : String} {kind : BackendKind}
    (found : ofName? name = some kind) : kind.name = name :=
  beq_iff_eq.mp (List.find?_some (p := fun kind : BackendKind => kind.name == name) found)

namespace Environment

/-- The names of the variables of every store. -/
def storeNames : List String :=
  ["OBJECT_STORE_BUCKET", "OBJECT_STORE_BASE_FOLDER", "OBJECT_STORE_DISABLE_MULTIPART",
    "OBJECT_STORE_BACKEND"]

/-- The names of the variables of a server. -/
def serverNames : List String :=
  ["OBJECT_STORE_ENDPOINT", "OBJECT_STORE_REGION", "OBJECT_STORE_ACCESS_KEY",
    "OBJECT_STORE_SECRET_KEY"]

/-- The names of the variables that a configuration is read from: those of every store, and those
of the backend that is chosen. -/
def asked (environment : Environment) : List String :=
  storeNames ++
    match environment "OBJECT_STORE_BACKEND" with
    | none => ["OBJECT_STORE_LOCAL_ROOT"]
    | some "local" => ["OBJECT_STORE_LOCAL_ROOT"]
    | some "s3" => serverNames
    | some _ => []

variable {environment : Environment}

theorem mem_asked_of_store {name : String} (member : name ∈ storeNames) :
    name ∈ environment.asked :=
  List.mem_append_left _ member

theorem mem_asked_of_directory
    (chosen : (environment "OBJECT_STORE_BACKEND").getD "local" = "local") :
    "OBJECT_STORE_LOCAL_ROOT" ∈ environment.asked := by
  apply List.mem_append_right
  cases named : environment "OBJECT_STORE_BACKEND" with
  | none => exact List.mem_singleton_self _
  | some name =>
      rw [named, Option.getD_some] at chosen
      subst chosen
      exact List.mem_singleton_self _

theorem mem_asked_of_server {name : String}
    (chosen : (environment "OBJECT_STORE_BACKEND").getD "local" = "s3")
    (member : name ∈ serverNames) : name ∈ environment.asked := by
  apply List.mem_append_right
  cases named : environment "OBJECT_STORE_BACKEND" with
  | none =>
      rw [named, Option.getD_none] at chosen
      exact absurd chosen (by decide)
  | some name =>
      rw [named, Option.getD_some] at chosen
      subst chosen
      exact member

/-- Two environments that agree on the names asked for choose the same backend. -/
theorem backend_congr (same : ∀ name ∈ one.asked, one name = other name) :
    one.backend = other.backend := by
  have chosen : one "OBJECT_STORE_BACKEND" = other "OBJECT_STORE_BACKEND" :=
    same _ (mem_asked_of_store (by decide))
  simp only [backend, ← chosen]
  split
  next => rfl
  next found =>
    have root := same _ (mem_asked_of_directory (BackendKind.name_of_ofName? found).symm)
    rw [root]
  next found =>
    have server {name : String} (member : name ∈ serverNames) : one name = other name :=
      same _ (mem_asked_of_server (BackendKind.name_of_ofName? found).symm member)
    have endpoint : one "OBJECT_STORE_ENDPOINT" = other "OBJECT_STORE_ENDPOINT" :=
      server (by decide)
    have region : one "OBJECT_STORE_REGION" = other "OBJECT_STORE_REGION" := server (by decide)
    have access : one "OBJECT_STORE_ACCESS_KEY" = other "OBJECT_STORE_ACCESS_KEY" :=
      server (by decide)
    have secret : one "OBJECT_STORE_SECRET_KEY" = other "OBJECT_STORE_SECRET_KEY" :=
      server (by decide)
    rw [endpoint, region, access, secret]
  next => rfl

/-- A configuration is read from the variables that are said to be looked at. -/
theorem config_congr (same : ∀ name ∈ one.asked, one name = other name) :
    one.config = other.config := by
  have store {name : String} (member : name ∈ storeNames) : one name = other name :=
    same _ (mem_asked_of_store member)
  have bucket : one "OBJECT_STORE_BUCKET" = other "OBJECT_STORE_BUCKET" := store (by decide)
  have folder : one "OBJECT_STORE_BASE_FOLDER" = other "OBJECT_STORE_BASE_FOLDER" :=
    store (by decide)
  have transfers : one "OBJECT_STORE_DISABLE_MULTIPART" = other "OBJECT_STORE_DISABLE_MULTIPART" :=
    store (by decide)
  simp only [config, disableMultipart, bucket, folder, transfers, backend_congr same]

end Environment

/-! ## The sources of a configuration -/

namespace Flags

variable {σ : Type}

/-- The names of the variables that the configuration of a run depends on: those that the file
refers to, as far as it can be read, none beside a bucket, and else those of the store. -/
def asked (flags : Flags) (disk : Files.Disk (StateM σ)) (environment : Environment) (state : σ) :
    List String :=
  match flags.config, flags.bucket with
  | some path, _ =>
    match (disk.readText path state).1 with
    | .ok text => Config.references text
    | .error _ => []
  | none, some _ => []
  | none, none => environment.asked

section Congruence

variable [UrlReader] [TomlReader]

/-- The source depends on the variables that are looked at. -/
theorem source_congr (flags : Flags) (disk : Files.Disk (StateM σ)) (state : σ)
    (same : ∀ name ∈ flags.asked disk one state, one name = other name) :
    flags.source disk one state = flags.source disk other state := by
  cases named : flags.config with
  | some path =>
      have loaded :
          ConfigFile.load disk one path state = ConfigFile.load disk other path state := by
        apply ConfigFile.load_congr
        intro text read name member
        apply same
        simpa only [asked, named, read] using member
      rw [source_of_config disk one named, source_of_config disk other named, bind_pure_apply,
        bind_pure_apply, loaded]
  | none =>
      cases bucketed : flags.bucket with
      | some bucket => simp only [source, named, bucketed]
      | none =>
          have read : one.config = other.config := by
            apply Environment.config_congr
            intro name member
            apply same
            simpa only [asked, named, bucketed] using member
          simp only [source, named, bucketed, read]

/-- **A configuration depends on the variables that are looked at.** Whatever the settings and the
disk, two environments that agree on the variables that a run looks at under one of them give the
same configuration or the same error. -/
theorem resolve_congr (flags : Flags) (disk : Files.Disk (StateM σ)) (state : σ)
    (same : ∀ name ∈ flags.asked disk one state, one name = other name) :
    flags.resolve disk one state = flags.resolve disk other state := by
  rw [flags.resolve_eq disk one state, flags.resolve_eq disk other state,
    flags.source_congr disk state same]

end Congruence

/-- A directory with a configuration file that refers to the variable `B`. -/
def configured : Files.FileSystem :=
  ⟨.dir [("conf", .file (.ofText "[store]\nbucket_name = \"$\x7bB\x7d\"\n"))], []⟩

/-- Beside a file the variables of the store do not count, and for a server the root does not. -/
theorem resolve_congr_configured :
    resolve { config := some "conf" } Files.FileSystem.disk
        (.ofPairs [("B", "bkt"), ("OBJECT_STORE_BUCKET", "other")]) configured =
      resolve { config := some "conf" } Files.FileSystem.disk
        (.ofPairs [("C", "other"), ("B", "bkt")]) configured ∧
    resolve {} Files.FileSystem.disk
        (.ofPairs [("OBJECT_STORE_BACKEND", "s3"), ("OBJECT_STORE_BUCKET", "bkt")]) configured =
      resolve {} Files.FileSystem.disk
        (.ofPairs [("OBJECT_STORE_BUCKET", "bkt"), ("OBJECT_STORE_BACKEND", "s3"),
          ("OBJECT_STORE_LOCAL_ROOT", "/srv")]) configured := by
  have text : (Files.FileSystem.disk.readText "conf" configured).1 =
      .ok "[store]\nbucket_name = \"$\x7bB\x7d\"\n" := rfl
  have names : Config.references "[store]\nbucket_name = \"$\x7bB\x7d\"\n" = ["B"] := by
    decide +kernel
  constructor
  · apply resolve_congr
    intro name member
    simp only [asked, text, names, List.mem_singleton] at member
    rw [member]
    rfl
  · apply resolve_congr
    have looked : Environment.asked (.ofPairs [("OBJECT_STORE_BACKEND", "s3"),
        ("OBJECT_STORE_BUCKET", "bkt")]) = Environment.storeNames ++ Environment.serverNames := rfl
    simp only [asked, looked]
    decide

end Flags

end PipelineDepot
