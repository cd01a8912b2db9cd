import PipelineDepot.Config.Environment

/-! # References to the environment

A text refers to a variable by its name between `${` and `}`. The references of a text are found
from left to right, each as far left as one can start, and depend on the text alone. Substitution
puts the value of each variable in the place of its reference and leaves a reference to an unset
variable as it stands; what it puts in is not looked at again.
-/

namespace PipelineDepot.Config

/-- The name in a reference at the head of a text, and what is behind the reference. -/
def reference? : List Char → Option (List Char × List Char)
  | '$' :: '\x7b' :: body =>
    match body.takeWhile (· != '\x7d'), body.dropWhile (· != '\x7d') with
    | [], _ => none
    | _, [] => none
    | name, _ :: rest => some (name, rest)
  | _ => none

/-- A reference takes something off the text. -/
theorem reference?_shorter {text name rest : List Char}
    (found : reference? text = some (name, rest)) : rest.length < text.length := by
  unfold reference? at found
  split at found
  next body =>
    have whole := congrArg List.length
      (List.takeWhile_append_dropWhile (p := (· != '\x7d')) (l := body))
    split at found
    next => cases found
    next => cases found
    next behind _ =>
      cases found
      rw [behind] at whole
      simp only [List.length_append, List.length_cons] at whole ⊢
      omega
  next => cases found

/-- A text cut at its references: what stands before the first one, and each name with what stands
behind its reference. -/
structure Pieces where
  lead : List Char
  references : List (List Char × List Char)
  deriving DecidableEq, Repr

/-- Cuts a text at its references. -/
def pieces (text : List Char) : Pieces :=
  match _found : reference? text with
  | some (name, rest) =>
    let later := pieces rest
    ⟨[], (name, later.lead) :: later.references⟩
  | none =>
    match text with
    | [] => ⟨[], []⟩
    | c :: rest =>
      let later := pieces rest
      ⟨c :: later.lead, later.references⟩
termination_by text.length
decreasing_by
  · exact reference?_shorter _found
  · simp

/-- The names that a text refers to. -/
def references (text : String) : List String :=
  (pieces text.toList).references.map fun (name, _) => String.ofList name

/-- A reference as it is written. -/
def referenceText (name : List Char) : List Char :=
  '$' :: '\x7b' :: (name ++ ['\x7d'])

/-- What stands in the place of a reference. -/
def referenceValue (environment : Environment) (name : List Char) : List Char :=
  match environment (String.ofList name) with
  | some value => value.toList
  | none => referenceText name

/-- The text with the values of its references. -/
def Pieces.fill (environment : Environment) (pieces : Pieces) : List Char :=
  pieces.lead ++
    pieces.references.flatMap fun (name, behind) => referenceValue environment name ++ behind

/-- The text with the values of its references. -/
def substitute (environment : Environment) (text : String) : String :=
  String.ofList ((pieces text.toList).fill environment)

end PipelineDepot.Config
