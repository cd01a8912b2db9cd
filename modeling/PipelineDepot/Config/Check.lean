import PipelineDepot.Config.Basic
import PipelineDepot.Validation

/-! # Checking configurations

A configuration is sound when each setting keeps its rule and the keys of a server come in a pair.
The first rule that is broken is the one that is reported: those of the bucket, the base folder and
the backend, in this order.
-/

namespace PipelineDepot

namespace S3Settings

/-- The error about one key without the other. -/
def unpairedKeys : StoreError :=
  .config "access_key and secret_key must be provided together"

/-- Checks the settings of a server. -/
def validate [UrlReader] (settings : S3Settings) : Except StoreError Unit := do
  match settings.endpoint with
  | some endpoint => Validation.url "backend.endpoint" endpoint
  | none => .ok ()
  Validation.region "backend.region" settings.region
  if settings.accessKey.isSome != settings.secretKey.isSome then .error unpairedKeys else .ok ()

end S3Settings

namespace Backend

/-- Checks a backend. -/
def validate [UrlReader] : Backend → Except StoreError Unit
  | memory => .ok ()
  | directory root => Validation.path "backend.root" root
  | s3 settings => settings.validate

end Backend

namespace StoreConfig

/-- Checks a configuration. -/
def validate [UrlReader] (config : StoreConfig) : Except StoreError Unit := do
  Validation.bucketName "bucket_name" config.bucketName
  Validation.keyPrefix "base_folder" config.baseFolder
  config.backend.validate

end StoreConfig

end PipelineDepot
