import PipelineDepot.Config.Form
import PipelineDepot.Yaml.Record

/-! # Configurations as documents

A configuration can be stored as a YAML document. The settings themselves are read as what they have
to be, so that a bucket may be called `123`; what stands in the backend is first read as data,
because its kind may come last.
-/

namespace PipelineDepot

open Yaml

namespace Backend

/-- What has been read of a backend: its kind, and the entries beside it, the last one first. -/
structure Draft where
  kind : Option BackendKind := none
  content : List (Datum × Datum) := []

/-- Reads the kind of a backend. -/
def kindReader : Reader BackendKind := do
  match BackendKind.read (← Reader.textAs "variant identifier") with
  | .ok kind => return kind
  | .error error => throw error

/-- Reads one entry of a backend. -/
def Draft.read (inner : Reader Datum) (draft : Draft) : Reader Draft := do
  let key ← inner
  if key matches .text "type" then
    return { draft with kind := ← Reader.field tag draft.kind kindReader }
  else return { draft with content := (key, ← inner) :: draft.content }

/-- The items of a list behind its first one, and the first one read as a kind. -/
def listReader (inner : Reader Datum) : Reader (BackendKind × List Datum) := do
  if (← Reader.peek) = .listEnd then throw (.missingField tag)
  return (← kindReader, ← Reader.items inner)

/-- Reads a backend, whose collections stand in each other at most `depth` deep. -/
def reader (depth : Nat) : Reader Backend := do
  let inner := Reader.datumUpTo (depth - 1)
  let (kind, content) ← Reader.resolved do
    let element ← Reader.take
    if element.ownTag?.isSome then throw (.wrongType "enum" expected)
    match element with
    | .mapStart _ =>
      let draft ← Reader.steps (Draft.read inner) {}
      return (← Reader.require tag draft.kind, Datum.map draft.content.reverse)
    | .listStart _ =>
      let (kind, items) ← listReader inner
      return (kind, Datum.list items)
    | _ => throw (mismatch element expected)
  match ofContent dialect kind content with
  | .ok backend => return backend
  | .error error => throw error

end Backend

namespace StoreConfig

/-- Reads one field. -/
def Draft.read (draft : Draft) : Reader Draft := do
  match ← Reader.fieldName with
  | "bucket_name" =>
    return { draft with bucketName := ← Reader.field "bucket_name" draft.bucketName .text }
  | "base_folder" =>
    return { draft with baseFolder := ← Reader.field "base_folder" draft.baseFolder .text }
  | "disable_multipart" =>
    let disableMultipart ← Reader.field "disable_multipart" draft.disableMultipart .bool
    return { draft with disableMultipart }
  | "backend" =>
    let backend ← Reader.field "backend" draft.backend (Backend.reader (Reader.maxDepth - 1))
    return { draft with backend }
  | _ =>
    Reader.skip
    return draft

/-- Reads a configuration. -/
def reader : Reader StoreConfig := do
  let draft ← Reader.mapBy expected Draft.read {}
  match draft.finish with
  | .ok config => return config
  | .error error => throw error

/-- The codec of configurations. -/
def codec : Codec StoreConfig where
  encode config := (Value.ofDatum config.toDatum).render
  decode := reader.decode

end StoreConfig

end PipelineDepot
