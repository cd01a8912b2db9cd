import PipelineDepot.Config.Check
import PipelineDepot.Config.Form
import PipelineDepot.Config.Substitution
import PipelineDepot.Files.Disk

/-! # Configuration files

A configuration file is a TOML document with the configuration of the store under `store` and, if it
likes, that of the log under `logging`. References to the environment are filled in before the
document is read, by a reader of TOML, and what is read has to be sound.
-/

namespace PipelineDepot

/-- A reader of TOML documents. -/
class TomlReader where
  /-- The table of a document, if the text is one. -/
  document? : String → Option Datum

/-- The configuration of the log. -/
structure LogConfig where
  verbose : Option Bool := none
  format : Option String := none
  deriving DecidableEq, Repr

/-- What a configuration file holds. -/
structure ConfigFile where
  store : StoreConfig
  logging : Option LogConfig
  deriving DecidableEq, Repr

namespace Toml

/-- The dialect of the messages about TOML documents. -/
def dialect : Dialect where
  unitName := "unit value"
  floatText := Binary64.plainText
  longLists := true
  wideSigned := true

end Toml

namespace LogConfig

open Toml (dialect)

/-- The settings read so far. -/
structure Draft where
  verbose : Option (Option Bool) := none
  format : Option (Option String) := none

/-- Reads one entry. -/
def Draft.step (draft : Draft) (entry : Datum × Datum) : Except CodecError Draft := do
  let (key, value) := entry
  match ← key.fieldName dialect ["verbose", "format"] with
  | some "verbose" =>
    let verbose ← fillField "verbose" draft.verbose ((value.asBool dialect).map some)
    return { draft with verbose }
  | some "format" =>
    let format ← fillField "format" draft.format ((value.asText dialect).map some)
    return { draft with format }
  | _ => return draft

/-- Reads the configuration of the log. -/
def ofDatum : Datum → Except CodecError LogConfig
  | .map entries => do
    let draft ← entries.foldlM Draft.step {}
    return { verbose := draft.verbose.join, format := draft.format.join }
  | .list items => do
    let expected := "struct LoggingConfig with 2 elements"
    let verbose ← fieldAt items 0 expected none (Datum.asBool dialect)
    let format ← fieldAt items 1 expected none (Datum.asText dialect)
    return { verbose := some verbose, format := some format }
  | datum => .error (datum.mismatch dialect "struct LoggingConfig")

/-- The log is written in the format of a name, whatever the case of the name. -/
def hasFormat (config : LogConfig) (name : String) : Bool :=
  config.format.any fun format => lowerAscii format.toList == name.toList

/-- Checks the configuration of the log. -/
def validate (config : LogConfig) : Except StoreError Unit :=
  match config.format with
  | none => .ok ()
  | some format =>
    if config.hasFormat "compact" || config.hasFormat "json" then .ok ()
    else .error (.invalid "logging.format" format "Expected `compact` or `json`")

end LogConfig

namespace ConfigFile

open Toml (dialect)

/-- What has been read so far. -/
structure Draft where
  store : Option StoreConfig := none
  logging : Option LogConfig := none

/-- Reads one entry. -/
def Draft.step (draft : Draft) (entry : Datum × Datum) : Except CodecError Draft := do
  let (key, value) := entry
  match ← key.fieldName dialect ["store", "logging"] with
  | some "store" =>
    let store ← fillField "store" draft.store (StoreConfig.ofDatum dialect value)
    return { draft with store }
  | some "logging" =>
    let logging ← fillField "logging" draft.logging (LogConfig.ofDatum value)
    return { draft with logging }
  | _ => return draft

/-- Reads the entries of a document. -/
def ofEntries (entries : List (Datum × Datum)) : Except CodecError ConfigFile := do
  let draft ← entries.foldlM Draft.step {}
  return { store := ← requireField "store" draft.store, logging := draft.logging }

/-- Reads a document. -/
def decode [TomlReader] (text : String) : Except CodecError ConfigFile :=
  match TomlReader.document? text with
  | some (.map entries) => ofEntries entries
  | _ => .error .malformed

/-- The log is written as JSON. -/
def jsonLogging (file : ConfigFile) : Bool :=
  file.logging.any (·.hasFormat "json")

/-- Checks what a file holds. -/
def validate [UrlReader] (file : ConfigFile) : Except StoreError Unit := do
  file.store.validate
  match file.logging with
  | none => .ok ()
  | some logging => logging.validate

variable [UrlReader] [TomlReader]

/-- Reads the text of a configuration file. -/
def ofText (environment : Environment) (text : String) : Except StoreError ConfigFile :=
  match decode (Config.substitute environment text) with
  | .error cause => .error (.config ("TOML parsing error: " ++ cause.message))
  | .ok file => do
    file.validate
    return file

/-- Reads a configuration file. -/
def load {m : Type → Type} [Monad m] (disk : Files.Disk m) (environment : Environment)
    (path : String) : m (Except StoreError ConfigFile) := do
  match ← disk.readText path with
  | .error cause => return .error (.io cause)
  | .ok text => return ofText environment text

end ConfigFile

end PipelineDepot
