import PipelineDepot.CommandLine.Arguments

/-! # The command line

What the program is told to do, and the settings that it is told to use. `CommandLine.parse` reads
it from the arguments. The options for settings may stand before the command or behind it, and what
stands behind counts.
-/

namespace PipelineDepot

/-- What the program is told to do. -/
inductive Command
  | key (pipelineId : String)
  | put (path file : String)
  /-- Prints an object or saves it to a file. -/
  | get (path : String) (output : Option String)
  | delete (path : String)
  /-- Stores a YAML document in its usual form. -/
  | putYaml (path file : String)
  /-- Prints a YAML document, as it is or as JSON. -/
  | getYaml (path : String) (json : Bool)
  deriving DecidableEq, Repr

/-- The settings given on the command line. -/
structure Flags where
  config : Option String := none
  bucket : Option String := none
  baseFolder : Option String := none
  backend : Option BackendKind := none
  root : Option String := none
  endpoint : Option String := none
  multipart : Bool := false
  deriving DecidableEq, Repr

/-- A command line. -/
structure CommandLine where
  flags : Flags
  verbose : Bool
  command : Command
  deriving DecidableEq, Repr

namespace CommandLine

/-- The options for settings, which all grammars have. -/
def settingRules : List OptionRule :=
  [{ name := "config", kind := .path }, { name := "bucket", kind := .text },
    { name := "base-folder", kind := .text }, { name := "backend", kind := .backend },
    { name := "root", kind := .path }, { name := "endpoint", kind := .text },
    { name := "multipart", kind := .flag },
    { name := "verbose", letter := some 'v', kind := .flag },
    { name := "help", letter := some 'h', kind := .help }]

/-- The name of the command that shows help on the others. -/
def helpName : String := "help"

/-- The options and operands of the commands. -/
def commandRules : List (String × List OptionRule × List Kind) :=
  [("key", [], [.text]), ("put", [], [.text, .path]),
    ("get", [{ name := "output", letter := some 'o', kind := .path }], [.text]),
    ("delete", [], [.text]), ("put-yaml", [], [.text, .path]),
    ("get-yaml", [{ name := "json", kind := .flag }], [.text])]

/-- The grammar in front of the command. -/
def topGrammar : Grammar where
  options := settingRules
  operands := []
  commands := commandRules.map (·.1) ++ [helpName]

/-- What was read in front of the command and behind it. -/
structure Levels where
  top : Found
  inner : Found

namespace Levels

variable (levels : Levels)

/-- The value of an option; one behind the command counts before one in front of it. -/
def value? (name : String) : Option String :=
  (levels.inner.lookup (.option name)).or (levels.top.lookup (.option name))

/-- An operand of the command. -/
def operand (index : Nat) : String := (levels.inner.lookup (.operand index)).getD ""

/-- The settings. -/
def flags : Flags where
  config := levels.value? "config"
  bucket := levels.value? "bucket"
  baseFolder := levels.value? "base-folder"
  backend := (levels.value? "backend").bind BackendKind.ofName?
  root := levels.value? "root"
  endpoint := levels.value? "endpoint"
  multipart := (levels.value? "multipart").isSome

/-- The command of a name. -/
def command (name : String) : Command :=
  match name with
  | "key" => .key (levels.operand 0)
  | "put" => .put (levels.operand 0) (levels.operand 1)
  | "get" => .get (levels.operand 0) (levels.value? "output")
  | "delete" => .delete (levels.operand 0)
  | "put-yaml" => .putYaml (levels.operand 0) (levels.operand 1)
  | _ => .getYaml (levels.operand 0) (levels.value? "json").isSome

end Levels

/-- Reads what is behind the name of a command. -/
def readCommand (options : List OptionRule) (operands : List Kind) (arguments : List String) :
    Except UsageError Found := do
  let grammar : Grammar := { options := settingRules ++ options, operands, commands := [] }
  let (progress, _) ← grammar.readAll arguments {}
  let progress ← progress.settle
  if progress.next < operands.length then .error .missingOperand
  else .ok progress.found

/-- What a request for help on a command comes to. -/
def helpOn : List String → UsageError
  | [] => .help
  | [name] => if topGrammar.commands.contains name then .help else .unknownCommand
  | _ => .unknownCommand

/-- Reads a command line. -/
def parse (arguments : List String) : Except UsageError CommandLine := do
  let (progress, rest?) ← topGrammar.readAll arguments {}
  match rest? with
  | none =>
    let progress ← progress.settle
    .error (if progress.found.isEmpty then .noArguments else .missingCommand)
  | some (name, rest) =>
    match commandRules.lookup name with
    | none => .error (helpOn rest)
    | some (options, operands) =>
      let inner ← readCommand options operands rest
      let progress ← progress.settle
      let levels : Levels := ⟨progress.found, inner⟩
      return {
        flags := levels.flags
        verbose := (levels.value? "verbose").isSome
        command := levels.command name }

end CommandLine

end PipelineDepot
