import PipelineDepot.Config.Basic
import PipelineDepot.Datum

/-! # The serialized form of configurations

A configuration is written as a map of its settings, and the backend in it as a map of its own with
its kind under `type`. It is read from such a map, in which settings with a default may be missing
and unknown names do not count, or from a list of the settings in their order.

`StoreConfig.ofDatum` reads what `StoreConfig.toDatum` writes.
-/

namespace PipelineDepot

open CodecError

namespace Datum

variable (dialect : Dialect)

/-- The error about data of another type than expected. -/
def mismatch (datum : Datum) (expected : String) : CodecError :=
  .wrongType (datum.describe dialect) expected

/-- Reads a text. -/
def asText (expected : String := "a string") : Datum → Except CodecError String
  | text value => .ok value
  | datum => .error (datum.mismatch dialect expected)

/-- Reads a truth value. -/
def asBool : Datum → Except CodecError Bool
  | bool value => .ok value
  | datum => .error (datum.mismatch dialect "a boolean")

/-- Reads a text that may be missing. -/
def asOptionalText : Datum → Except CodecError (Option String)
  | unit => .ok none
  | datum => (datum.asText dialect).map some

/-- The datum for a text that may be missing. -/
def ofOptionalText : Option String → Datum
  | none => unit
  | some value => text value

/-- The name of the field that a key of a record stands for; an integer counts the fields from zero.
Any other key stands for none. -/
def fieldName (fields : List String) : Datum → Except CodecError (Option String)
  | text name => .ok (if name ∈ fields then some name else none)
  | int index =>
    if index < 0 then .error ((int index).mismatch dialect "field identifier")
    else .ok fields[index.toNat]?
  | key => .error (key.mismatch dialect "field identifier")

end Datum

/-- Puts the value read for a field into its place, which must still be empty. -/
def fillField {α : Type} (name : String) (held : Option α) (value : Except CodecError α) :
    Except CodecError (Option α) :=
  if held.isSome then .error (.duplicateField name) else value.map some

/-- The value of a field that must not be missing. -/
def requireField {α : Type} (name : String) (held : Option α) : Except CodecError α :=
  match held with
  | none => .error (.missingField name)
  | some value => .ok value

/-- Reads one place of a list of fields; without a default the list must be long enough. -/
def fieldAt {α : Type} (items : List Datum) (index : Nat) (expected : String)
    (default? : Option α) (read : Datum → Except CodecError α) : Except CodecError α :=
  match items[index]?, default? with
  | some item, _ => read item
  | none, some value => .ok value
  | none, none => .error (.wrongLength index expected)

/-- The error about a list inside tagged data that is longer than the record it is read as. -/
def checkNoRest (items : List Datum) (count : Nat) : Except CodecError Unit :=
  if count < items.length then
    let noun := if count = 1 then "element" else "elements"
    .error (.wrongLength items.length s!"{count} {noun} in sequence")
  else .ok ()

namespace S3Settings

/-- The names of the fields, in their order. -/
def fields : List String := ["endpoint", "region", "access_key", "secret_key"]

/-- The settings read so far. -/
structure Draft where
  endpoint : Option (Option String) := none
  region : Option String := none
  accessKey : Option (Option String) := none
  secretKey : Option (Option String) := none

/-- The fields with their values. -/
def toEntries (settings : S3Settings) : List (Datum × Datum) :=
  [(.text "endpoint", .ofOptionalText settings.endpoint),
    (.text "region", .text settings.region),
    (.text "access_key", .ofOptionalText settings.accessKey),
    (.text "secret_key", .ofOptionalText settings.secretKey)]

variable (dialect : Dialect)

/-- Reads one entry. -/
def Draft.step (draft : Draft) (entry : Datum × Datum) : Except CodecError Draft := do
  let (key, value) := entry
  match ← key.fieldName dialect fields with
  | some "endpoint" =>
    let endpoint ← fillField "endpoint" draft.endpoint (value.asOptionalText dialect)
    return { draft with endpoint }
  | some "region" =>
    let region ← fillField "region" draft.region (value.asText dialect)
    return { draft with region }
  | some "access_key" =>
    let accessKey ← fillField "access_key" draft.accessKey (value.asOptionalText dialect)
    return { draft with accessKey }
  | some "secret_key" =>
    let secretKey ← fillField "secret_key" draft.secretKey (value.asOptionalText dialect)
    return { draft with secretKey }
  | _ => return draft

/-- The settings of a draft; what is missing has its default. -/
def Draft.finish (draft : Draft) : S3Settings where
  endpoint := draft.endpoint.join
  region := draft.region.getD defaultRegion
  accessKey := draft.accessKey.join
  secretKey := draft.secretKey.join

/-- Reads the settings from the content beside their kind. -/
def ofContent : Datum → Except CodecError S3Settings
  | .map entries => do
    let draft ← entries.foldlM (Draft.step dialect) {}
    return draft.finish
  | .list items => do
    let expected := "struct S3Settings with 4 elements"
    let endpoint ← fieldAt items 0 expected none (Datum.asOptionalText dialect)
    let region ← fieldAt items 1 expected (some defaultRegion) (Datum.asText dialect)
    let accessKey ← fieldAt items 2 expected none (Datum.asOptionalText dialect)
    let secretKey ← fieldAt items 3 expected none (Datum.asOptionalText dialect)
    checkNoRest items 4
    return { endpoint, region, accessKey, secretKey }
  | datum => .error (datum.mismatch dialect "struct S3Settings")

end S3Settings

namespace BackendKind

/-- Reads the name of a kind. -/
def read (name : String) : Except CodecError BackendKind :=
  match ofName? name with
  | some kind => .ok kind
  | none => .error (.unknownVariant name (all.map BackendKind.name))

/-- Reads the datum under `type`. -/
def ofDatum (dialect : Dialect) (datum : Datum) : Except CodecError BackendKind := do
  read (← datum.asText dialect "variant identifier")

end BackendKind

namespace Backend

/-- What a backend is read as. -/
def expected : String := "internally tagged enum Backend"

/-- The name of the entry that holds the kind. -/
def tag : String := "type"

/-- The fields with their values, the kind first. -/
def toDatum (backend : Backend) : Datum :=
  let content : List (Datum × Datum) :=
    match backend with
    | memory => []
    | directory root => [(.text "root", .text root)]
    | s3 settings => settings.toEntries
  .map ((.text tag, .text backend.name) :: content)

variable (dialect : Dialect)

/-- Reads one entry of a backend that is a directory. -/
def rootStep (held : Option String) (entry : Datum × Datum) :
    Except CodecError (Option String) := do
  let (key, value) := entry
  match ← key.fieldName dialect ["root"] with
  | some _ => fillField "root" held (value.asText dialect "path string")
  | none => return held

/-- Reads a backend of a kind from the content beside its kind. -/
def ofContent (kind : BackendKind) (content : Datum) : Except CodecError Backend :=
  match kind, content with
  | .memory, .list items => do
    checkNoRest items 0
    return memory
  | .memory, _ => .ok memory
  | .directory, .map entries => do
    let held ← entries.foldlM (rootStep dialect) none
    return directory (← requireField "root" held)
  | .directory, .list items => do
    let root ← fieldAt items 0 "struct variant Backend::Local with 1 element" none
      (Datum.asText dialect "path string")
    checkNoRest items 1
    return directory root
  | .directory, datum => .error (datum.mismatch dialect "struct variant Backend::Local")
  | .s3, content => (S3Settings.ofContent dialect content).map s3

/-- Takes the kind out of the entries, which hold it once. -/
def splitKind (held : Option BackendKind) :
    List (Datum × Datum) → Except CodecError (BackendKind × List (Datum × Datum))
  | [] => (requireField tag held).map (·, [])
  | (key, value) :: rest =>
    if key matches .text "type" then
      if held.isSome then .error (.duplicateField tag)
      else do splitKind (some (← BackendKind.ofDatum dialect value)) rest
    else do
      let (kind, content) ← splitKind held rest
      return (kind, (key, value) :: content)

/-- Reads a backend. -/
def ofDatum : Datum → Except CodecError Backend
  | .map entries => do
    let (kind, content) ← splitKind dialect none entries
    ofContent dialect kind (.map content)
  | .list [] => .error (.missingField tag)
  | .list (kind :: content) => do
    ofContent dialect (← BackendKind.ofDatum dialect kind) (.list content)
  | datum => .error (datum.mismatch dialect expected)

end Backend

namespace StoreConfig

/-- What a configuration is read as. -/
def expected : String := "struct StoreConfig"

/-- The names of the fields, in their order. -/
def fields : List String := ["bucket_name", "base_folder", "disable_multipart", "backend"]

/-- The fields with their values. -/
def toDatum (config : StoreConfig) : Datum :=
  .map [(.text "bucket_name", .text config.bucketName),
    (.text "base_folder", .text config.baseFolder),
    (.text "disable_multipart", .bool config.disableMultipart),
    (.text "backend", config.backend.toDatum)]

/-- The settings read so far. -/
structure Draft where
  bucketName : Option String := none
  baseFolder : Option String := none
  disableMultipart : Option Bool := none
  backend : Option Backend := none

/-- The configuration of a draft; what is missing has its default, save the bucket. -/
def Draft.finish (draft : Draft) : Except CodecError StoreConfig := do
  let bucketName ← requireField "bucket_name" draft.bucketName
  return {
    bucketName
    baseFolder := draft.baseFolder.getD defaultBaseFolder
    disableMultipart := draft.disableMultipart.getD true
    backend := draft.backend.getD .default }

variable (dialect : Dialect)

/-- Reads one entry. -/
def Draft.step (draft : Draft) (entry : Datum × Datum) : Except CodecError Draft := do
  let (key, value) := entry
  match ← key.fieldName dialect fields with
  | some "bucket_name" =>
    let bucketName ← fillField "bucket_name" draft.bucketName (value.asText dialect)
    return { draft with bucketName }
  | some "base_folder" =>
    let baseFolder ← fillField "base_folder" draft.baseFolder (value.asText dialect)
    return { draft with baseFolder }
  | some "disable_multipart" =>
    let disableMultipart ←
      fillField "disable_multipart" draft.disableMultipart (value.asBool dialect)
    return { draft with disableMultipart }
  | some "backend" =>
    let backend ← fillField "backend" draft.backend (Backend.ofDatum dialect value)
    return { draft with backend }
  | _ => return draft

/-- Reads a configuration. -/
def ofDatum : Datum → Except CodecError StoreConfig
  | .map entries => do
    let draft ← entries.foldlM (Draft.step dialect) {}
    draft.finish
  | .list items => do
    let expected := "struct StoreConfig with 4 elements"
    let bucketName ← fieldAt items 0 expected none (Datum.asText dialect)
    let baseFolder ← fieldAt items 1 expected (some defaultBaseFolder) (Datum.asText dialect)
    let disableMultipart ← fieldAt items 2 expected (some true) (Datum.asBool dialect)
    let backend ← fieldAt items 3 expected (some .default) (Backend.ofDatum dialect)
    if 4 < items.length && !dialect.longLists then
      .error (.wrongLength items.length "fewer elements in array")
    else return { bucketName, baseFolder, disableMultipart, backend }
  | datum => .error (datum.mismatch dialect expected)

end StoreConfig

end PipelineDepot
