import PipelineDepot.Config.Basic

/-! # Arguments

How a list of arguments is read by a grammar of options, operands and commands. An option is written
in full behind two dashes or as a letter behind one, and its value goes with it in one argument or
follows as the next one. Behind `--` all arguments are operands. Reading stops at the name of a
command, whose own grammar reads the rest.

What an option or an operand was given is checked when the next one starts or the arguments end, not
before; until then another fault may come first.
-/

namespace PipelineDepot.CommandLine

/-- What is wrong with the arguments, or that they ask for help. -/
inductive UsageError
  | help
  /-- There is no argument at all. -/
  | noArguments
  | missingCommand
  | missingOperand
  | unknownArgument
  | unknownCommand
  | badValue
  | repeated
  | needlessValue
  deriving DecidableEq, Repr

/-- What an option or an operand takes. -/
inductive Kind
  /-- Nothing; the option is there or not. -/
  | flag
  /-- Nothing; the option asks for help. -/
  | help
  | text
  /-- A path, which is not empty. -/
  | path
  /-- The name of a backend. -/
  | backend
  deriving DecidableEq, Repr

namespace Kind

/-- The kind goes with a value. -/
def takesValue : Kind → Bool
  | flag | help => false
  | _ => true

/-- The value is one that the kind takes. -/
def accepts (value : String) : Kind → Bool
  | path => value != ""
  | backend => (BackendKind.ofName? value).isSome
  | _ => true

end Kind

/-- An option or an operand. -/
inductive Slot
  /-- An option, by its name in full. -/
  | option (name : String)
  /-- An operand, by its place. -/
  | operand (index : Nat)
  deriving DecidableEq, Repr

/-- An option of a grammar. -/
structure OptionRule where
  name : String
  letter : Option Char := none
  kind : Kind
  deriving DecidableEq, Repr

/-- What the arguments of a command may be. -/
structure Grammar where
  options : List OptionRule
  operands : List Kind
  commands : List String
  deriving DecidableEq, Repr

/-- What stands in the slots. -/
abbrev Found := List (Slot × String)

/-- A slot with what it was given, as far as that is known. -/
structure Pending where
  slot : Slot
  kind : Kind
  value : Option String
  deriving DecidableEq, Repr

/-- How far the arguments have been read. -/
structure Progress where
  /-- The slots that have been checked. -/
  found : Found := []
  /-- The slot that is still to be checked. -/
  pending : Option Pending := none
  /-- The place of the next operand. -/
  next : Nat := 0
  /-- Only operands follow. -/
  operandsOnly : Bool := false
  deriving DecidableEq, Repr

namespace Progress

variable (progress : Progress)

/-- The next argument is the value of an option. -/
def wantsValue : Bool := progress.pending.any fun pending => pending.value.isNone

/-- Puts a value into a slot, which must be free and take the value. -/
def fill (slot : Slot) (kind : Kind) (value : String) : Except UsageError Progress :=
  if (progress.found.lookup slot).isSome then .error .repeated
  else if kind.accepts value then .ok { progress with found := (slot, value) :: progress.found }
  else .error .badValue

/-- Checks the pending slot. -/
def settle : Except UsageError Progress :=
  match progress.pending with
  | none => .ok progress
  | some ⟨_, _, none⟩ => .error .badValue
  | some ⟨slot, kind, some value⟩ => { progress with pending := none }.fill slot kind value

/-- Reads an option that comes without a value to follow. -/
def readOption (rule : OptionRule) (value : String) : Except UsageError Progress := do
  let progress ← progress.settle
  if rule.kind = .help then .error .help
  else progress.fill (.option rule.name) rule.kind value

/-- Reads an option whose value is the next argument. -/
def awaitValue (rule : OptionRule) : Except UsageError Progress := do
  let progress ← progress.settle
  return { progress with pending := some ⟨.option rule.name, rule.kind, none⟩ }

end Progress

namespace Grammar

variable (grammar : Grammar)

/-- Reads an option in full, with the value behind an equals sign if there is one. -/
def readName (name : String) (value? : Option String) (progress : Progress) :
    Except UsageError Progress :=
  match grammar.options.find? (·.name == name) with
  | none => .error .unknownArgument
  | some rule =>
    match rule.kind.takesValue, value? with
    | true, some value => progress.readOption rule value
    | true, none => progress.awaitValue rule
    | false, some _ => .error .needlessValue
    | false, none => progress.readOption rule ""

/-- Reads the letters of options; what is behind the letter of an option with a value is the value,
with or without an equals sign. -/
def readLetters : List Char → Progress → Except UsageError Progress
  | [], progress => .ok progress
  | letter :: rest, progress =>
    match grammar.options.find? (·.letter == some letter) with
    | none => .error .unknownArgument
    | some rule =>
      if rule.kind.takesValue then
        match rest with
        | [] => progress.awaitValue rule
        | '=' :: value => progress.readOption rule (String.ofList value)
        | value => progress.readOption rule (String.ofList value)
      else do
        let progress ← progress.readOption rule ""
        readLetters rest progress

/-- The fault of an argument that stands in no place. -/
def misplaced (argument : String) (progress : Progress) : UsageError :=
  if grammar.commands.isEmpty then .unknownArgument
  else if progress.operandsOnly && grammar.commands.contains argument then .unknownArgument
  else .unknownCommand

/-- Reads an operand. -/
def readOperand (argument : String) (progress : Progress) : Except UsageError Progress :=
  match grammar.operands[progress.next]? with
  | none => .error (grammar.misplaced argument progress)
  | some kind => do
    let progress ← progress.settle
    return { progress with
      pending := some ⟨.operand progress.next, kind, some argument⟩
      next := progress.next + 1 }

/-- Reads a value or an operand. -/
def readPlain (argument : String) (progress : Progress) : Except UsageError Progress :=
  match progress.pending with
  | some ⟨slot, kind, none⟩ => .ok { progress with pending := some ⟨slot, kind, some argument⟩ }
  | _ => grammar.readOperand argument progress

/-- Cuts an option in full at its first equals sign. -/
def splitName (text : List Char) : String × Option String :=
  let name := text.takeWhile (· != '=')
  match text.drop name.length with
  | [] => (String.ofList name, none)
  | _ :: value => (String.ofList name, some (String.ofList value))

/-- Reads an argument. -/
def read (argument : String) (progress : Progress) : Except UsageError Progress :=
  if progress.operandsOnly then grammar.readOperand argument progress
  else match argument.toList with
    | ['-', '-'] => .ok { progress with operandsOnly := true }
    | '-' :: '-' :: text =>
      let (name, value?) := splitName text
      grammar.readName name value? progress
    | '-' :: letter :: rest => grammar.readLetters (letter :: rest) progress
    | _ => grammar.readPlain argument progress

/-- Reads arguments up to the name of a command or to their end. -/
def readAll : List String → Progress →
    Except UsageError (Progress × Option (String × List String))
  | [], progress => .ok (progress, none)
  | argument :: rest, progress =>
    if !progress.operandsOnly && !progress.wantsValue && grammar.commands.contains argument then
      .ok (progress, some (argument, rest))
    else do
      let progress ← grammar.read argument progress
      readAll rest progress

end Grammar

end PipelineDepot.CommandLine
