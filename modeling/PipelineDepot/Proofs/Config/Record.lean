import PipelineDepot.Config.File
import PipelineDepot.Proofs.Config.Form
import PipelineDepot.Proofs.Toml.Table

/-! # Configurations read from tables

The entries of a table are named data, so a configuration file has in its settings what stands at
their places in the tables of the document. For the keys of a server this is
`ConfigFile.keys_eq_some_iff`.
-/

namespace PipelineDepot

open Toml (Entries Node entriesData)

namespace Toml

/-- The named data of a table. -/
def fieldsOf (entries : Entries) : List (String × Datum) :=
  entries.map fun entry => (entry.1, entry.2.datum)

variable {entries : Entries} {name : String}

theorem entriesData_eq_keyed (entries : Entries) :
    entriesData entries = keyed (fieldsOf entries) := by
  induction entries with
  | nil => rfl
  | cons entry entries ih =>
      obtain ⟨name, node⟩ := entry
      rw [entriesData, ih]
      rfl

/-- The first datum under a name is that of its entry. -/
theorem head?_valuesOf_fieldsOf :
    (valuesOf name (fieldsOf entries)).head? = (entries.lookup name).map Node.datum := by
  rw [head?_valuesOf]
  induction entries with
  | nil => rfl
  | cons entry entries ih =>
      obtain ⟨key, node⟩ := entry
      rw [Association.lookup_cons_ite]
      change List.lookup name ((key, node.datum) :: fieldsOf entries) = _
      rw [Association.lookup_cons_ite]
      split
      next => rfl
      next => exact ih

/-- A text stands under a name as the value of its entry. -/
theorem valueAt_eq_text_iff {text : String} :
    Entries.valueAt [name] entries = some (.text text) ↔
      (valuesOf name (fieldsOf entries)).head? = some (.text text) := by
  rw [Entries.valueAt_cons, head?_valuesOf_fieldsOf]
  cases entries.lookup name with
  | none => exact ⟨nofun, nofun⟩
  | some node =>
      cases node with
      | value datum => exact Iff.rfl
      | table origin inner => simp [Node.valueAt, Entries.valueAt, Node.datum]
      | tables last others => simp [Node.valueAt, Node.datum]

end Toml

open Toml (fieldsOf)

section Given

variable {α : Type} {Means : Datum → α → Prop} {default? : Option α} {value : α}

/-- What an entry gives is what its datum means. -/
theorem Given.of_lookup {entries : Entries} {name : String} {node : Node}
    (given : Given Means default? (valuesOf name (fieldsOf entries)) value)
    (found : entries.lookup name = some node) : Means node.datum value := by
  have first : (valuesOf name (fieldsOf entries)).head? = some node.datum := by
    rw [Toml.head?_valuesOf_fieldsOf, found, Option.map_some]
  generalize valuesOf name (fieldsOf entries) = data at given first
  cases given with
  | stated means =>
      cases first
      exact means
  | omitted _ => cases first

/-- A text that may be missing is the datum that gives it. -/
theorem Given.eq_some_iff {data : List Datum} {held : Option String}
    (given : Given (Is .ofOptionalText) (some none) data held) {text : String} :
    held = some text ↔ data.head? = some (.text text) := by
  cases given with
  | stated means =>
      rw [means, List.head?_cons, Option.some.injEq]
      cases held with
      | none => simp only [Datum.ofOptionalText, reduceCtorEq]
      | some held => simp only [Datum.ofOptionalText, Datum.text.injEq, Option.some.injEq]
  | omitted unstated =>
      cases unstated
      simp only [List.head?_nil, reduceCtorEq]

end Given

namespace ConfigFile

/-- The fields of a file that are read. -/
def record : List (Field Draft) :=
  [⟨"store", StoreConfig.ofDatum Toml.dialect, Draft.store,
      fun draft store => { draft with store }⟩,
    ⟨"logging", LogConfig.ofDatum, Draft.logging, fun draft logging => { draft with logging }⟩]

theorem isRecord : IsRecord Draft.step record where
  own field member := by
    fin_cases member <;> exact fun _ _ => rfl
  unknown draft key value foreign := by
    have foreign : key ∉ ["store", "logging"] := foreign
    simp only [Draft.step, Datum.fieldName, foreign, ↓reduceIte]
    rfl
  get_set field member := by
    fin_cases member <;> exact fun _ _ => rfl
  apart field member other listed different := by
    fin_cases member <;> fin_cases listed <;>
      first | exact fun _ _ => rfl | exact absurd rfl different

end ConfigFile

/-! ## What is read from tables -/

/-- A text is read as the file that its document is read as. -/
theorem ConfigFile.decode_eq_ok_iff [TomlReader] {text : String} {file : ConfigFile} :
    decode text = .ok file ↔
      ∃ entries, TomlReader.document? text = some (.map entries) ∧
        ofEntries entries = .ok file := by
  unfold decode
  constructor
  · intro read
    split at read
    next entries found => exact ⟨entries, found, read⟩
    next => cases read
  · rintro ⟨entries, found, read⟩
    simp only [found, read]

/-- A file is what its filled text is read as, if that is sound. -/
theorem ConfigFile.ofText_eq_ok_iff [UrlReader] [TomlReader] {environment : Environment}
    {text : String} {file : ConfigFile} :
    ofText environment text = .ok file ↔
      decode (Config.substitute environment text) = .ok file ∧ file.validate = .ok () := by
  unfold ofText
  cases decode (Config.substitute environment text) with
  | error cause => exact ⟨nofun, nofun⟩
  | ok read =>
      simp only [bind_eq_ok_iff, Except.ok.injEq]
      constructor
      · rintro ⟨⟨⟩, passed, ⟨⟩⟩
        exact ⟨rfl, passed⟩
      · rintro ⟨rfl, passed⟩
        exact ⟨(), passed, rfl⟩

theorem ConfigFile.given_store {fields : List (String × Datum)} {file : ConfigFile}
    (read : ofEntries (keyed fields) = .ok file) :
    Given (ReadAs (StoreConfig.ofDatum Toml.dialect)) none (valuesOf "store" fields)
      file.store := by
  obtain ⟨draft, run, finished⟩ := bind_eq_ok_iff.mp read
  obtain ⟨store, required, same⟩ := bind_eq_ok_iff.mp finished
  cases same
  exact (isRecord.given_none_iff (.head _) rfl run).mpr (requireField_eq_ok_iff.mp required)

/-- The keys of a server are read from their entries. -/
theorem ConfigFile.keys_eq_some_iff {entries store backend : Entries} {origin nested : Toml.Origin}
    {file : ConfigFile} {settings : S3Settings}
    (storeAt : entries.lookup "store" = some (.table origin store))
    (backendAt : store.lookup "backend" = some (.table nested backend))
    (read : ofEntries (entriesData entries) = .ok file)
    (server : file.store.backend = .s3 settings) (key : String) :
    (settings.accessKey = some key ↔
      Entries.valueAt ["store", "backend", "access_key"] entries = some (.text key)) ∧
    (settings.secretKey = some key ↔
      Entries.valueAt ["store", "backend", "secret_key"] entries = some (.text key)) := by
  rw [Toml.entriesData_eq_keyed] at read
  have storeRead : StoreConfig.ofDatum Toml.dialect (.map (entriesData store)) = .ok file.store :=
    (given_store read).of_lookup storeAt
  rw [Toml.entriesData_eq_keyed] at storeRead
  have backendRead : Backend.ofDatum Toml.dialect (.map (entriesData backend)) =
      .ok file.store.backend := (StoreConfig.ofDatum_keyed.mp storeRead).backend.of_lookup backendAt
  rw [Toml.entriesData_eq_keyed, Backend.ofDatum_keyed, server] at backendRead
  have place (name : String) :
      Entries.valueAt ["store", "backend", name] entries = Entries.valueAt [name] backend := by
    simp only [Entries.valueAt_cons, storeAt, backendAt, Node.valueAt]
  rw [place, place, Toml.valueAt_eq_text_iff, Toml.valueAt_eq_text_iff]
  cases backendRead with
  | server _ stated => exact ⟨stated.accessKey.eq_some_iff, stated.secretKey.eq_some_iff⟩

end PipelineDepot
