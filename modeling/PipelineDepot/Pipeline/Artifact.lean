import PipelineDepot.Yaml.Record

/-! # Run artifacts

What a run of a pipeline leaves behind: its identifier and the numbers it measured.
-/

namespace PipelineDepot

open Yaml

/-- What a run leaves behind. -/
structure RunArtifact where
  runId : String
  metrics : List Binary64
  deriving DecidableEq, Repr

namespace RunArtifact

/-- The value of an artifact in a document. -/
def toValue (artifact : RunArtifact) : Value :=
  .map [(.text "run_id", .text artifact.runId),
    (.text "metrics", .list (artifact.metrics.map Value.float))]

/-- The fields read so far. -/
structure Draft where
  runId : Option String := none
  metrics : Option (List Binary64) := none

/-- Reads one field. -/
def Draft.read (draft : Draft) : Reader Draft := do
  match ← Reader.fieldName with
  | "run_id" => return { draft with runId := ← Reader.field "run_id" draft.runId .text }
  | "metrics" =>
    return { draft with metrics := ← Reader.field "metrics" draft.metrics (.list .float) }
  | _ =>
    Reader.skip
    return draft

/-- Reads an artifact. -/
def reader : Reader RunArtifact := do
  let draft ← Reader.mapBy "struct RunArtifact" Draft.read {}
  let runId ← Reader.require "run_id" draft.runId
  let metrics ← Reader.require "metrics" draft.metrics
  return { runId, metrics }

/-- The codec of artifacts. -/
def codec : Codec RunArtifact where
  encode artifact := artifact.toValue.render
  decode := reader.decode

end RunArtifact

end PipelineDepot
