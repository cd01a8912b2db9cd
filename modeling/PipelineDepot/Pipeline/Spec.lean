import PipelineDepot.Yaml.Record

/-! # Pipeline specifications

A pipeline is a list of steps, each of which runs an image, together with parameters by name.
-/

namespace PipelineDepot

open Yaml

/-- A step of a pipeline. -/
structure Step where
  name : String
  image : String
  /-- How often a failed step is run again. -/
  retries : UInt32
  deriving DecidableEq, Repr

/-- A pipeline. -/
structure PipelineSpec where
  name : String
  description : Option String
  steps : List Step
  /-- The parameters, in the order of their names. -/
  parameters : List (String × String)
  deriving DecidableEq, Repr

namespace Step

/-- The value of a step in a document. -/
def toValue (step : Step) : Value :=
  .map [(.text "name", .text step.name), (.text "image", .text step.image),
    (.text "retries", .int step.retries.toNat)]

/-- The fields read so far. -/
structure Draft where
  name : Option String := none
  image : Option String := none
  retries : Option UInt32 := none

/-- Reads one field. -/
def Draft.read (draft : Draft) : Reader Draft := do
  match ← Reader.fieldName with
  | "name" => return { draft with name := ← Reader.field "name" draft.name .text }
  | "image" => return { draft with image := ← Reader.field "image" draft.image .text }
  | "retries" => return { draft with retries := ← Reader.field "retries" draft.retries .word32 }
  | _ =>
    Reader.skip
    return draft

/-- Reads a step. -/
def reader : Reader Step := do
  let draft ← Reader.mapBy "struct Step" Draft.read {}
  let name ← Reader.require "name" draft.name
  let image ← Reader.require "image" draft.image
  let retries ← Reader.require "retries" draft.retries
  return { name, image, retries }

end Step

namespace PipelineSpec

/-- Sets the parameter of a name. -/
def insertParameter (name value : String) : List (String × String) → List (String × String)
  | [] => [(name, value)]
  | (other, kept) :: rest =>
    if name = other then (name, value) :: rest
    else if name < other then (name, value) :: (other, kept) :: rest
    else (other, kept) :: insertParameter name value rest

/-- The value of a pipeline in a document. -/
def toValue (spec : PipelineSpec) : Value :=
  .map [(.text "name", .text spec.name),
    (.text "description", (spec.description.map Value.text).getD .null),
    (.text "steps", .list (spec.steps.map Step.toValue)),
    (.text "parameters", .map (spec.parameters.map fun (name, value) => (.text name, .text value)))]

/-- The fields read so far. -/
structure Draft where
  name : Option String := none
  description : Option (Option String) := none
  steps : Option (List Step) := none
  parameters : Option (List (String × String)) := none

/-- Reads the parameters; the last one of a name counts. -/
def parametersReader : Reader (List (String × String)) :=
  Reader.mapBy "a map" (fun done => do return insertParameter (← .text) (← .text) done) []

/-- Reads one field. -/
def Draft.read (draft : Draft) : Reader Draft := do
  match ← Reader.fieldName with
  | "name" => return { draft with name := ← Reader.field "name" draft.name .text }
  | "description" =>
    let description ← Reader.field "description" draft.description (.optional .text)
    return { draft with description }
  | "steps" => return { draft with steps := ← Reader.field "steps" draft.steps (.list Step.reader) }
  | "parameters" =>
    let parameters ← Reader.field "parameters" draft.parameters parametersReader
    return { draft with parameters }
  | _ =>
    Reader.skip
    return draft

/-- Reads a pipeline. -/
def reader : Reader PipelineSpec := do
  let draft ← Reader.mapBy "struct PipelineSpec" Draft.read {}
  let name ← Reader.require "name" draft.name
  let steps ← Reader.require "steps" draft.steps
  let parameters ← Reader.require "parameters" draft.parameters
  return { name, description := draft.description.join, steps, parameters }

/-- The codec of pipelines. -/
def codec : Codec PipelineSpec where
  encode spec := spec.toValue.render
  decode := reader.decode

end PipelineSpec

end PipelineDepot
