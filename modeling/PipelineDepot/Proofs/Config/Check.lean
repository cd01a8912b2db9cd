import PipelineDepot.Config.Check

/-! # Sound configurations

The checks of a configuration run one after the other and stop at the first one that fails, so a
configuration passes exactly when each of its parts does (`StoreConfig.validate_eq_ok_iff`).
-/

namespace PipelineDepot

/-- Two steps succeed exactly when the first does and the second does on what it gave. -/
theorem bind_eq_ok_iff {ε α β : Type} {first : Except ε α} {next : α → Except ε β} {result : β} :
    (first >>= next) = .ok result ↔ ∃ middle, first = .ok middle ∧ next middle = .ok result := by
  cases first with
  | error cause =>
      constructor
      · rintro ⟨⟩
      · rintro ⟨_, ⟨⟩, _⟩
  | ok middle =>
      constructor
      · intro succeeded
        exact ⟨middle, rfl, succeeded⟩
      · rintro ⟨_, ⟨⟩, succeeded⟩
        exact succeeded

/-- Two checks pass exactly when each of them does. -/
theorem check_bind_eq_ok_iff {ε : Type} {first second : Except ε Unit} :
    (first >>= fun _ => second) = .ok () ↔ first = .ok () ∧ second = .ok () := by
  rw [bind_eq_ok_iff]
  constructor
  · rintro ⟨⟨⟩, passed, next⟩
    exact ⟨passed, next⟩
  · rintro ⟨passed, next⟩
    exact ⟨(), passed, next⟩

/-- Two checks fail with the error of the first one that does. -/
theorem check_bind_eq_error_iff {ε : Type} {first second : Except ε Unit} {error : ε} :
    (first >>= fun _ => second) = .error error ↔
      first = .error error ∨ first = .ok () ∧ second = .error error := by
  cases first with
  | error cause => exact ⟨.inl, fun failed => failed.resolve_right nofun⟩
  | ok => exact ⟨fun failed => .inr ⟨rfl, failed⟩, fun failed => (failed.resolve_left nofun).2⟩

variable [UrlReader]

/-- The settings of a server pass when their endpoint and region do and their keys are paired. -/
theorem S3Settings.validate_eq_ok_iff {settings : S3Settings} :
    settings.validate = .ok () ↔
      (∀ endpoint, settings.endpoint = some endpoint →
        Validation.url "backend.endpoint" endpoint = .ok ()) ∧
      Validation.region "backend.region" settings.region = .ok () ∧
      settings.accessKey.isSome = settings.secretKey.isSome := by
  have paired : (if settings.accessKey.isSome != settings.secretKey.isSome
      then .error unpairedKeys else .ok () : Except StoreError Unit) = .ok () ↔
        settings.accessKey.isSome = settings.secretKey.isSome := by
    by_cases same : settings.accessKey.isSome = settings.secretKey.isSome
    · simp only [same, bne_self_eq_false, Bool.false_eq_true, ↓reduceIte]
    · simp only [bne_iff_ne, ne_eq, same, not_false_eq_true, ↓reduceIte, reduceCtorEq]
  cases stated : settings.endpoint with
  | none =>
      simp only [validate, stated, check_bind_eq_ok_iff, paired, true_and, reduceCtorEq,
        false_implies, implies_true]
  | some endpoint =>
      simp only [validate, stated, check_bind_eq_ok_iff, paired, Option.some.injEq, forall_eq']

/-- A configuration passes when its bucket, its base folder and its backend do. -/
theorem StoreConfig.validate_eq_ok_iff {config : StoreConfig} :
    config.validate = .ok () ↔
      Validation.bucketName "bucket_name" config.bucketName = .ok () ∧
      Validation.keyPrefix "base_folder" config.baseFolder = .ok () ∧
      config.backend.validate = .ok () := by
  simp only [validate, check_bind_eq_ok_iff]

/-- The keys of a sound configuration come in a pair. -/
theorem StoreConfig.keys_paired {config : StoreConfig} {settings : S3Settings}
    (sound : config.validate = .ok ()) (server : config.backend = .s3 settings) :
    settings.accessKey.isSome = settings.secretKey.isSome := by
  obtain ⟨-, -, checked⟩ := validate_eq_ok_iff.mp sound
  rw [server] at checked
  exact (S3Settings.validate_eq_ok_iff.mp checked).2.2

end PipelineDepot
