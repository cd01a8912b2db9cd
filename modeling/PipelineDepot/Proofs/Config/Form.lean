import Mathlib.Tactic.FinCases
import PipelineDepot.Proofs.Config.Names
import PipelineDepot.Proofs.Record

/-! # The forms a configuration can be given in

A configuration can be given as an object or as a list, and so can the backend in it. In an object
the settings stand in any order, names of no setting do not count, and what has a default may be
left out. In a list the settings stand in their order (`StoreConfig.Spelled`). All these forms are
read as the configuration that they spell, and so is what a configuration is written as. Nothing
else that JSON can say is read at all (`StoreConfig.formLaw`).

A backend is tagged: the kind stands among its own settings, and is taken out before these are read
(`Backend.splitKind_keyed`).
-/

namespace PipelineDepot

/-! ## Single data -/

/-- A datum without names other than texts, as JSON has them. -/
inductive Datum.IsJson : Datum → Prop
  | unit : IsJson .unit
  | bool (value : Bool) : IsJson (.bool value)
  | int (value : Int) : IsJson (.int value)
  | float (value : Binary64) : IsJson (.float value)
  | text (value : String) : IsJson (.text value)
  | list {items : List Datum} (inside : ∀ item ∈ items, IsJson item) : IsJson (.list items)
  | object {fields : List (String × Datum)} (inside : ∀ field ∈ fields, IsJson field.2) :
      IsJson (.map (keyed fields))

section Single

variable (dialect : Dialect)

theorem readAs_asText {expected : String} :
    ReadAs (Datum.asText dialect expected) = Is Datum.text := by
  funext datum value
  cases datum <;> simp [ReadAs, Is, Datum.asText]

theorem readAs_asBool : ReadAs (Datum.asBool dialect) = Is Datum.bool := by
  funext datum value
  cases datum <;> simp [ReadAs, Is, Datum.asBool]

theorem readAs_asOptionalText :
    ReadAs (Datum.asOptionalText dialect) = Is Datum.ofOptionalText := by
  funext datum value
  cases value <;> cases datum <;>
    simp [ReadAs, Is, Datum.asOptionalText, Datum.asText, Datum.ofOptionalText, Except.map]

theorem BackendKind.read_eq_ok_iff {name : String} {kind : BackendKind} :
    read name = .ok kind ↔ name = kind.name := by
  constructor
  · intro known
    unfold read at known
    split at known
    next found =>
      cases known
      exact (name_of_ofName? found).symm
    next => cases known
  · rintro rfl
    cases kind <;> rfl

/-- A kind is read from its own name only. -/
theorem BackendKind.ofDatum_eq_ok_iff {datum : Datum} {kind : BackendKind} :
    ofDatum dialect datum = .ok kind ↔ datum = .text kind.name := by
  unfold ofDatum
  cases datum with
  | text name =>
      rw [Datum.text.injEq, ← read_eq_ok_iff]
      rfl
  | _ => simp [Datum.asText, bind, Except.bind]

end Single

/-! ## Settings of a server -/

namespace S3Settings

/-- Named data state the settings of a server. Every setting may be left out, and other names do not
count. -/
structure Stated (settings : S3Settings) (fields : List (String × Datum)) : Prop where
  endpoint : Given (Is .ofOptionalText) (some none) (valuesOf "endpoint" fields) settings.endpoint
  region : Given (Is .text) (some defaultRegion) (valuesOf "region" fields) settings.region
  accessKey :
    Given (Is .ofOptionalText) (some none) (valuesOf "access_key" fields) settings.accessKey
  secretKey :
    Given (Is .ofOptionalText) (some none) (valuesOf "secret_key" fields) settings.secretKey

/-- Names that are no settings of a server do not bear on what is stated. -/
theorem Stated.congr {settings : S3Settings} {named others : List (String × Datum)}
    (stated : settings.Stated named)
    (same : ∀ name ∈ fields, valuesOf name others = valuesOf name named) :
    settings.Stated others where
  endpoint := same _ (.head _) ▸ stated.endpoint
  region := same _ (.tail _ <| .head _) ▸ stated.region
  accessKey := same _ (.tail _ <| .tail _ <| .head _) ▸ stated.accessKey
  secretKey := same _ (.tail _ <| .tail _ <| .tail _ <| .head _) ▸ stated.secretKey

/-- The settings in their order. -/
def listed (settings : S3Settings) : List Datum :=
  [.ofOptionalText settings.endpoint, .text settings.region, .ofOptionalText settings.accessKey,
    .ofOptionalText settings.secretKey]

variable (dialect : Dialect)

/-- The fields that are read. -/
def record : List (Field Draft) :=
  [⟨"endpoint", Datum.asOptionalText dialect, Draft.endpoint,
      fun draft endpoint => { draft with endpoint }⟩,
    ⟨"region", Datum.asText dialect, Draft.region, fun draft region => { draft with region }⟩,
    ⟨"access_key", Datum.asOptionalText dialect, Draft.accessKey,
      fun draft accessKey => { draft with accessKey }⟩,
    ⟨"secret_key", Datum.asOptionalText dialect, Draft.secretKey,
      fun draft secretKey => { draft with secretKey }⟩]

theorem isRecord : IsRecord (Draft.step dialect) (record dialect) where
  own field member := by
    fin_cases member <;> exact fun _ _ => rfl
  unknown draft key value foreign := by
    have foreign : key ∉ fields := foreign
    simp only [Draft.step, Datum.fieldName, foreign, ↓reduceIte]
    rfl
  get_set field member := by
    fin_cases member <;> exact fun _ _ => rfl
  apart field member other listed different := by
    fin_cases member <;> fin_cases listed <;>
      first | exact fun _ _ => rfl | exact absurd rfl different

variable {dialect}

/-- What has been read is finished to the settings that the data state. -/
theorem finish_eq_iff {fields : List (String × Datum)} {final : Draft} {settings : S3Settings}
    (run : (keyed fields).foldlM (Draft.step dialect) {} = .ok final) :
    final.finish = settings ↔ settings.Stated fields := by
  have fills := isRecord dialect
  have endpoint : Given (Is .ofOptionalText) (some none) (valuesOf "endpoint" fields)
      settings.endpoint ↔ final.endpoint.getD none = settings.endpoint := by
    rw [← readAs_asOptionalText]
    exact fills.given_default_iff (.head _) rfl run
  have region : Given (Is .text) (some defaultRegion) (valuesOf "region" fields)
      settings.region ↔ final.region.getD defaultRegion = settings.region := by
    rw [← readAs_asText]
    exact fills.given_default_iff (.tail _ <| .head _) rfl run
  have accessKey : Given (Is .ofOptionalText) (some none) (valuesOf "access_key" fields)
      settings.accessKey ↔ final.accessKey.getD none = settings.accessKey := by
    rw [← readAs_asOptionalText]
    exact fills.given_default_iff (.tail _ <| .tail _ <| .head _) rfl run
  have secretKey : Given (Is .ofOptionalText) (some none) (valuesOf "secret_key" fields)
      settings.secretKey ↔ final.secretKey.getD none = settings.secretKey := by
    rw [← readAs_asOptionalText]
    exact fills.given_default_iff (.tail _ <| .tail _ <| .tail _ <| .head _) rfl run
  constructor
  · intro same
    subst same
    exact ⟨endpoint.mpr join_eq_getD.symm, region.mpr rfl, accessKey.mpr join_eq_getD.symm,
      secretKey.mpr join_eq_getD.symm⟩
  · intro stated
    rw [Draft.finish, join_eq_getD, join_eq_getD, join_eq_getD, endpoint.mp stated.endpoint,
      region.mp stated.region, accessKey.mp stated.accessKey, secretKey.mp stated.secretKey]

/-- An object is read as the settings that it states. -/
theorem ofContent_keyed {fields : List (String × Datum)} {settings : S3Settings} :
    ofContent dialect (.map (keyed fields)) = .ok settings ↔ settings.Stated fields := by
  constructor
  · intro read
    obtain ⟨final, run, same⟩ := bind_eq_ok_iff.mp read
    exact (finish_eq_iff run).mp (Except.ok.inj same)
  · intro stated
    have readable : ∀ field ∈ record dialect,
        ∃ held, Reads field.read (valuesOf field.name fields) held := by
      obtain ⟨endpoint, region, accessKey, secretKey⟩ := stated
      rw [← readAs_asOptionalText dialect] at endpoint accessKey secretKey
      rw [← readAs_asText dialect] at region
      intro field member
      fin_cases member
      · exact endpoint.reads
      · exact region.reads
      · exact accessKey.reads
      · exact secretKey.reads
    obtain ⟨final, run⟩ : ∃ final, (keyed fields).foldlM (Draft.step dialect) {} = .ok final :=
      (isRecord dialect).exists_run_of_empty
        (fun field member => by fin_cases member <;> rfl) readable
    refine bind_eq_ok_iff.mpr ⟨final, run, congrArg Except.ok ?_⟩
    exact (finish_eq_iff run).mpr stated

/-- A list gives all settings, in their order. -/
theorem ofContent_list {items : List Datum} {settings : S3Settings} :
    ofContent dialect (.list items) = .ok settings ↔ items = settings.listed := by
  constructor
  · intro read
    obtain ⟨endpoint, endpointAt, read⟩ := bind_eq_ok_iff.mp read
    obtain ⟨region, regionAt, read⟩ := bind_eq_ok_iff.mp read
    obtain ⟨accessKey, accessAt, read⟩ := bind_eq_ok_iff.mp read
    obtain ⟨secretKey, secretAt, read⟩ := bind_eq_ok_iff.mp read
    obtain ⟨_, short, same⟩ := bind_eq_ok_iff.mp read
    cases same
    rw [fieldAt_eq_ok_iff, readAs_asOptionalText, given_required_iff,
      Option.toList_eq_singleton_iff] at endpointAt accessAt secretAt
    rw [fieldAt_eq_ok_iff, readAs_asText] at regionAt
    rw [checkNoRest_eq_ok_iff] at short
    rcases items with _ | ⟨a, _ | ⟨b, _ | ⟨c, _ | ⟨d, rest⟩⟩⟩⟩
    · cases secretAt
    · cases secretAt
    · cases secretAt
    · cases secretAt
    · cases endpointAt
      cases accessAt
      cases secretAt
      have nothingMore : rest = [] := by
        simp only [List.length_cons] at short
        exact List.eq_nil_of_length_eq_zero (by omega)
      cases regionAt with
      | stated means =>
          rw [means, nothingMore]
          rfl
  · rintro rfl
    obtain ⟨endpoint, region, accessKey, secretKey⟩ := settings
    cases endpoint <;> cases accessKey <;> cases secretKey <;> rfl

end S3Settings

/-! ## Backends -/

namespace Backend

/-- Named data state a backend: its kind, and the settings that the kind has. Other names do not
count. -/
inductive Stated : Backend → List (String × Datum) → Prop
  | memory {fields : List (String × Datum)} (kind : valuesOf "type" fields = [.text "memory"]) :
      Stated .memory fields
  | directory {fields : List (String × Datum)} {root : String}
      (kind : valuesOf "type" fields = [.text "local"])
      (stated : valuesOf "root" fields = [.text root]) : Stated (.directory root) fields
  | server {fields : List (String × Datum)} {settings : S3Settings}
      (kind : valuesOf "type" fields = [.text "s3"]) (stated : settings.Stated fields) :
      Stated (.s3 settings) fields

/-- The kind and the settings that it has, in their order. -/
def listed : Backend → List Datum
  | memory => [.text "memory"]
  | directory root => [.text "local", .text root]
  | s3 settings => .text "s3" :: settings.listed

/-- The data that a backend is read from. -/
inductive Spelled (backend : Backend) : Datum → Prop
  | object {fields : List (String × Datum)} (stated : backend.Stated fields) :
      Spelled backend (.map (keyed fields))
  | list : Spelled backend (.list backend.listed)

variable (dialect : Dialect)

/-- The fields of a directory that are read. -/
def record : List (Field (Option String)) :=
  [⟨"root", Datum.asText dialect "path string", id, fun _ root => root⟩]

theorem isRecord : IsRecord (rootStep dialect) (record dialect) where
  own field member := by
    fin_cases member
    intro draft value
    exact (bind_pure _).symm
  unknown draft key value foreign := by
    have foreign : key ∉ ["root"] := foreign
    simp only [rootStep, Datum.fieldName, foreign, ↓reduceIte]
    rfl
  get_set field member := by
    fin_cases member
    exact fun _ _ => rfl
  apart field member other listed different := by
    fin_cases member
    fin_cases listed
    exact absurd rfl different

variable {dialect}

/-- The tag is taken out where it stands, and may stand there only once. -/
theorem splitKind_tag {datum : Datum} {rest : List (Datum × Datum)} {kind : BackendKind}
    {content : List (Datum × Datum)} {held : Option BackendKind} :
    splitKind dialect held ((.text tag, datum) :: rest) = .ok (kind, content) ↔
      held = none ∧ ∃ named : BackendKind, datum = .text named.name ∧
        splitKind dialect (some named) rest = .ok (kind, content) := by
  rw [tag, splitKind, if_pos rfl]
  cases held with
  | some held => exact ⟨nofun, nofun⟩
  | none =>
      simp only [Option.isSome_none, Bool.false_eq_true, ↓reduceIte, bind_eq_ok_iff,
        BackendKind.ofDatum_eq_ok_iff, true_and]

/-- What is not the tag is passed on to the settings of the backend. -/
theorem splitKind_other {name : String} (different : name ≠ tag) {datum : Datum}
    {rest : List (Datum × Datum)} {kind : BackendKind} {content : List (Datum × Datum)}
    {held : Option BackendKind} :
    splitKind dialect held ((.text name, datum) :: rest) = .ok (kind, content) ↔
      ∃ inner, splitKind dialect held rest = .ok (kind, inner) ∧
        content = (.text name, datum) :: inner := by
  rw [splitKind, if_neg Bool.false_ne_true, bind_eq_ok_iff]
  · constructor
    · intro split
      obtain ⟨⟨_, inner⟩, split, same⟩ := split
      cases same
      exact ⟨inner, split, rfl⟩
    · intro split
      obtain ⟨inner, split, rfl⟩ := split
      exact ⟨(kind, inner), split, rfl⟩
  · intro same
    cases same
    exact different rfl

/-- The kind is taken out of the entries, where it stands once. -/
theorem splitKind_keyed {held : Option BackendKind} {fields : List (String × Datum)}
    {kind : BackendKind} {content : List (Datum × Datum)} :
    splitKind dialect held (keyed fields) = .ok (kind, content) ↔
      content = keyed (fields.filter (·.1 ≠ tag)) ∧
        (held = some kind ∧ valuesOf tag fields = [] ∨
          held = none ∧ valuesOf tag fields = [.text kind.name]) := by
  induction fields generalizing held content with
  | nil =>
      cases held with
      | none => exact ⟨nofun, fun stated => by simp [valuesOf] at stated⟩
      | some held =>
          have left : splitKind dialect (some held) (keyed []) = .ok (held, []) := rfl
          simp only [left, Except.ok.injEq, Prod.mk.injEq, Option.some.injEq, valuesOf_nil,
            List.filter_nil, and_true, reduceCtorEq, false_and, or_false]
          exact ⟨fun same => ⟨same.2.symm, same.1⟩, fun same => ⟨same.2, same.1.symm⟩⟩
  | cons field fields ih =>
      obtain ⟨name, datum⟩ := field
      rw [keyed_cons]
      by_cases named : name = tag
      · subst named
        rw [valuesOf_cons_self, splitKind_tag, List.filter_cons_of_neg (by simp)]
        constructor
        · intro split
          obtain ⟨empty, other, rfl, split⟩ := split
          obtain ⟨kept, ⟨⟨⟩, alone⟩ | ⟨⟨⟩, -⟩⟩ := ih.mp split
          exact ⟨kept, .inr ⟨empty, by rw [alone]⟩⟩
        · intro stated
          obtain ⟨kept, ⟨-, ⟨⟩⟩ | ⟨empty, stands⟩⟩ := stated
          obtain ⟨means, alone⟩ := List.cons.inj stands
          exact ⟨empty, kind, means, ih.mpr ⟨kept, .inl ⟨rfl, alone⟩⟩⟩
      · rw [valuesOf_cons_of_ne _ _ named, splitKind_other named,
          List.filter_cons_of_pos (by simpa using named), keyed_cons]
        constructor
        · intro split
          obtain ⟨inner, split, rfl⟩ := split
          obtain ⟨rfl, stated⟩ := ih.mp split
          exact ⟨rfl, stated⟩
        · intro stated
          obtain ⟨rfl, stated⟩ := stated
          exact ⟨_, ih.mpr ⟨rfl, stated⟩, rfl⟩

/-- A directory needs a root. -/
theorem ofContent_directory {fields : List (String × Datum)} {backend : Backend} :
    ofContent dialect .directory (.map (keyed fields)) = .ok backend ↔
      ∃ root, backend = .directory root ∧ valuesOf "root" fields = [.text root] := by
  have fills := isRecord dialect
  have given (root : String) {final : Option String}
      (run : (keyed fields).foldlM (rootStep dialect) none = .ok final) :
      valuesOf "root" fields = [.text root] ↔ final = some root := by
    rw [← given_required_iff, ← readAs_asText dialect]
    exact fills.given_none_iff (.head _) rfl run
  rw [ofContent, bind_eq_ok_iff]
  constructor
  · intro read
    obtain ⟨final, run, read⟩ := read
    obtain ⟨root, filled, same⟩ := bind_eq_ok_iff.mp read
    cases same
    exact ⟨root, rfl, (given root run).mpr (requireField_eq_ok_iff.mp filled)⟩
  · intro stated
    obtain ⟨root, rfl, stated⟩ := stated
    have readable : ∀ field ∈ record dialect,
        ∃ held, Reads field.read (valuesOf field.name fields) held := by
      intro field member
      fin_cases member
      rw [← given_required_iff, ← readAs_asText dialect] at stated
      exact stated.reads
    obtain ⟨final, run⟩ : ∃ final, (keyed fields).foldlM (rootStep dialect) none = .ok final :=
      fills.exists_run_of_empty (fun field member => by fin_cases member; rfl) readable
    refine ⟨final, run, bind_eq_ok_iff.mpr ⟨root, ?_, rfl⟩⟩
    exact requireField_eq_ok_iff.mpr ((given root run).mp stated)

theorem ofContent_server {content : Datum} {backend : Backend} :
    ofContent dialect .s3 content = .ok backend ↔
      ∃ settings, backend = .s3 settings ∧
        S3Settings.ofContent dialect content = .ok settings := by
  rw [ofContent]
  cases S3Settings.ofContent dialect content with
  | error cause => exact ⟨nofun, nofun⟩
  | ok settings =>
      constructor
      · intro same
        exact ⟨settings, (Except.ok.inj same).symm, rfl⟩
      · intro same
        obtain ⟨_, rfl, ⟨⟩⟩ := same
        rfl

/-- As a list, a memory backend has nothing behind its kind. -/
theorem ofContent_memoryList {items : List Datum} {backend : Backend} :
    ofContent dialect .memory (.list items) = .ok backend ↔ backend = .memory ∧ items = [] := by
  rw [ofContent, bind_eq_ok_iff]
  constructor
  · intro read
    obtain ⟨_, short, same⟩ := read
    cases same
    exact ⟨rfl, List.eq_nil_of_length_eq_zero (Nat.le_zero.mp (checkNoRest_eq_ok_iff.mp short))⟩
  · rintro ⟨rfl, rfl⟩
    exact ⟨(), rfl, rfl⟩

/-- As a list, a directory backend has its root behind its kind and nothing else. -/
theorem ofContent_directoryList {items : List Datum} {backend : Backend} :
    ofContent dialect .directory (.list items) = .ok backend ↔
      ∃ root, backend = .directory root ∧ items = [.text root] := by
  rw [ofContent, bind_eq_ok_iff]
  constructor
  · intro read
    obtain ⟨root, rootAt, read⟩ := read
    obtain ⟨_, short, same⟩ := bind_eq_ok_iff.mp read
    cases same
    rw [fieldAt_eq_ok_iff, readAs_asText, given_required_iff,
      Option.toList_eq_singleton_iff] at rootAt
    rw [checkNoRest_eq_ok_iff] at short
    cases items with
    | nil => cases rootAt
    | cons item rest =>
        have nothingMore : rest = [] := List.eq_nil_of_length_eq_zero (by
          rw [List.length_cons] at short
          omega)
        cases rootAt
        rw [nothingMore]
        exact ⟨root, rfl, rfl⟩
  · rintro ⟨root, rfl, rfl⟩
    exact ⟨root, rfl, rfl⟩

/-- The settings of a server are read from the fields beside the kind. -/
theorem stated_beside {settings : S3Settings} {fields : List (String × Datum)} :
    settings.Stated (fields.filter (·.1 ≠ tag)) ↔ settings.Stated fields := by
  have same : ∀ name ∈ S3Settings.fields,
      valuesOf name (fields.filter (·.1 ≠ tag)) = valuesOf name fields := by
    intro name member
    refine valuesOf_filter_ne _ fun named => ?_
    subst named
    exact absurd member (by decide)
  exact ⟨fun stated => stated.congr fun name member => (same name member).symm,
    fun stated => stated.congr same⟩

/-- An object is read as the backend that it states. -/
theorem ofDatum_keyed {fields : List (String × Datum)} {backend : Backend} :
    ofDatum dialect (.map (keyed fields)) = .ok backend ↔ backend.Stated fields := by
  rw [ofDatum, bind_eq_ok_iff]
  constructor
  · intro read
    obtain ⟨⟨kind, content⟩, split, read⟩ := read
    obtain ⟨rfl, ⟨⟨⟩, -⟩ | ⟨-, named⟩⟩ := splitKind_keyed.mp split
    cases kind with
    | memory =>
        cases read
        exact .memory named
    | directory =>
        obtain ⟨root, rfl, stated⟩ := ofContent_directory.mp read
        rw [valuesOf_filter_ne _ (by decide)] at stated
        exact .directory named stated
    | s3 =>
        obtain ⟨settings, rfl, stated⟩ := ofContent_server.mp read
        exact .server named (stated_beside.mp (S3Settings.ofContent_keyed.mp stated))
  · intro stated
    have split (kind : BackendKind) (named : valuesOf tag fields = [.text kind.name]) :
        splitKind dialect none (keyed fields) =
          .ok (kind, keyed (fields.filter (·.1 ≠ tag))) :=
      splitKind_keyed.mpr ⟨rfl, .inr ⟨rfl, named⟩⟩
    cases stated with
    | memory named => exact ⟨_, split .memory named, rfl⟩
    | directory named stated =>
        refine ⟨_, split .directory named, ofContent_directory.mpr ⟨_, rfl, ?_⟩⟩
        rw [valuesOf_filter_ne _ (by decide), stated]
    | server named stated =>
        refine ⟨_, split .s3 named, ofContent_server.mpr ⟨_, rfl, ?_⟩⟩
        exact S3Settings.ofContent_keyed.mpr (stated_beside.mpr stated)

/-- A list is read as the backend that it lists, by its first item. -/
theorem ofDatum_list {items : List Datum} {backend : Backend} :
    ofDatum dialect (.list items) = .ok backend ↔ items = backend.listed := by
  cases items with
  | nil => cases backend <;> exact ⟨nofun, nofun⟩
  | cons item items =>
      rw [ofDatum, bind_eq_ok_iff]
      simp only [BackendKind.ofDatum_eq_ok_iff]
      constructor
      · intro read
        obtain ⟨kind, rfl, content⟩ := read
        cases kind with
        | memory =>
            obtain ⟨rfl, rfl⟩ := ofContent_memoryList.mp content
            rfl
        | directory =>
            obtain ⟨root, rfl, rfl⟩ := ofContent_directoryList.mp content
            rfl
        | s3 =>
            obtain ⟨settings, rfl, listed⟩ := ofContent_server.mp content
            rw [S3Settings.ofContent_list.mp listed]
            rfl
      · intro same
        cases backend with
        | memory =>
            cases same
            exact ⟨.memory, rfl, ofContent_memoryList.mpr ⟨rfl, rfl⟩⟩
        | directory root =>
            cases same
            exact ⟨.directory, rfl, ofContent_directoryList.mpr ⟨root, rfl, rfl⟩⟩
        | s3 settings =>
            obtain ⟨rfl, rfl⟩ := List.cons.inj same
            refine ⟨.s3, rfl, ofContent_server.mpr ⟨settings, rfl, ?_⟩⟩
            exact S3Settings.ofContent_list.mpr rfl

variable {backend : Backend} {datum : Datum}

/-- What spells a backend is read as it. -/
theorem Spelled.ofDatum_eq (spelled : backend.Spelled datum) :
    ofDatum dialect datum = .ok backend := by
  cases spelled with
  | object stated => exact ofDatum_keyed.mpr stated
  | list => exact ofDatum_list.mpr rfl

/-- Whatever JSON is read as a backend spells it. -/
theorem spelled_of_ofDatum (json : datum.IsJson) (read : ofDatum dialect datum = .ok backend) :
    backend.Spelled datum := by
  cases json with
  | object => exact .object (ofDatum_keyed.mp read)
  | list =>
      rw [ofDatum_list.mp read]
      exact .list
  | _ => cases read

/-- A backend is written in one of the forms that spell it. -/
theorem spelled_toDatum (backend : Backend) : backend.Spelled backend.toDatum := by
  cases backend with
  | memory =>
      change Spelled _ (.map (keyed [("type", .text "memory")]))
      exact .object (.memory rfl)
  | directory root =>
      change Spelled _ (.map (keyed [("type", .text "local"), ("root", .text root)]))
      exact .object (.directory rfl rfl)
  | s3 settings =>
      change Spelled _ (.map (keyed [("type", .text "s3"),
        ("endpoint", .ofOptionalText settings.endpoint), ("region", .text settings.region),
        ("access_key", .ofOptionalText settings.accessKey),
        ("secret_key", .ofOptionalText settings.secretKey)]))
      exact .object (.server rfl ⟨.stated rfl, .stated rfl, .stated rfl, .stated rfl⟩)

end Backend

/-! ## Configurations -/

namespace StoreConfig

/-- The data of the settings state a configuration, where `Means` is what a datum says about a
backend. Only the bucket must be stated; what is left out has its default. -/
structure Stated (Means : Datum → Backend → Prop) (config : StoreConfig)
    (data : String → List Datum) : Prop where
  bucket : data "bucket_name" = [.text config.bucketName]
  folder : Given (Is .text) (some defaultBaseFolder) (data "base_folder") config.baseFolder
  transfers : Given (Is .bool) (some true) (data "disable_multipart") config.disableMultipart
  backend : Given Means (some .default) (data "backend") config.backend

/-- The items of a list stand for the settings in their order. -/
def placed (items : List Datum) (name : String) : List Datum := items[fields.idxOf name]?.toList

/-- The data a configuration is read from: an object, in which names of no setting do not count, or
a list. -/
inductive Spelled (dialect : Dialect) (config : StoreConfig) : Datum → Prop
  | object {fields : List (String × Datum)}
      (stated : config.Stated (fun datum backend => backend.Spelled datum) (valuesOf · fields)) :
      Spelled dialect config (.map (keyed fields))
  | list {items : List Datum}
      (stated : config.Stated (fun datum backend => backend.Spelled datum) (placed items))
      (fits : items.length ≤ 4 ∨ dialect.longLists = true) : Spelled dialect config (.list items)

theorem Stated.mono {Means Other : Datum → Backend → Prop} {config : StoreConfig}
    {data : String → List Datum} (stated : Stated Means config data)
    (step : ∀ datum ∈ data "backend", ∀ backend, Means datum backend → Other datum backend) :
    Stated Other config data where
  bucket := stated.bucket
  folder := stated.folder
  transfers := stated.transfers
  backend := stated.backend.mono step

variable (dialect : Dialect)

/-- The fields that are read. -/
def record : List (Field Draft) :=
  [⟨"bucket_name", Datum.asText dialect, Draft.bucketName,
      fun draft bucketName => { draft with bucketName }⟩,
    ⟨"base_folder", Datum.asText dialect, Draft.baseFolder,
      fun draft baseFolder => { draft with baseFolder }⟩,
    ⟨"disable_multipart", Datum.asBool dialect, Draft.disableMultipart,
      fun draft disableMultipart => { draft with disableMultipart }⟩,
    ⟨"backend", Backend.ofDatum dialect, Draft.backend,
      fun draft backend => { draft with backend }⟩]

theorem isRecord : IsRecord (Draft.step dialect) (record dialect) where
  own field member := by
    fin_cases member <;> exact fun _ _ => rfl
  unknown draft key value foreign := by
    have foreign : key ∉ fields := foreign
    simp only [Draft.step, Datum.fieldName, foreign, ↓reduceIte]
    rfl
  get_set field member := by
    fin_cases member <;> exact fun _ _ => rfl
  apart field member other listed different := by
    fin_cases member <;> fin_cases listed <;>
      first | exact fun _ _ => rfl | exact absurd rfl different

variable {dialect} {config : StoreConfig}

/-- What has been read is finished to the configuration that the data state. -/
theorem finish_eq_ok_iff {fields : List (String × Datum)} {final : Draft}
    (run : (keyed fields).foldlM (Draft.step dialect) {} = .ok final) :
    final.finish = .ok config ↔
      config.Stated (ReadAs (Backend.ofDatum dialect)) (valuesOf · fields) := by
  have fills := isRecord dialect
  have bucket : valuesOf "bucket_name" fields = [.text config.bucketName] ↔
      final.bucketName = some config.bucketName := by
    rw [← given_required_iff, ← readAs_asText]
    exact fills.given_none_iff (.head _) rfl run
  have folder : Given (Is .text) (some defaultBaseFolder) (valuesOf "base_folder" fields)
      config.baseFolder ↔ final.baseFolder.getD defaultBaseFolder = config.baseFolder := by
    rw [← readAs_asText]
    exact fills.given_default_iff (.tail _ <| .head _) rfl run
  have transfers : Given (Is .bool) (some true) (valuesOf "disable_multipart" fields)
      config.disableMultipart ↔ final.disableMultipart.getD true = config.disableMultipart := by
    rw [← readAs_asBool]
    exact fills.given_default_iff (.tail _ <| .tail _ <| .head _) rfl run
  have backend : Given (ReadAs (Backend.ofDatum dialect)) (some .default)
      (valuesOf "backend" fields) config.backend ↔
        final.backend.getD .default = config.backend :=
    fills.given_default_iff (.tail _ <| .tail _ <| .tail _ <| .head _) rfl run
  rw [Draft.finish, bind_eq_ok_iff]
  constructor
  · intro finished
    obtain ⟨name, filled, same⟩ := finished
    cases same
    exact ⟨bucket.mpr (requireField_eq_ok_iff.mp filled), folder.mpr rfl, transfers.mpr rfl,
      backend.mpr rfl⟩
  · intro stated
    refine ⟨config.bucketName, requireField_eq_ok_iff.mpr (bucket.mp stated.bucket), ?_⟩
    rw [folder.mp stated.folder, transfers.mp stated.transfers, backend.mp stated.backend]
    rfl

/-- An object is read as the configuration that it states. -/
theorem ofDatum_keyed {fields : List (String × Datum)} :
    ofDatum dialect (.map (keyed fields)) = .ok config ↔
      config.Stated (ReadAs (Backend.ofDatum dialect)) (valuesOf · fields) := by
  constructor
  · intro read
    obtain ⟨final, run, finished⟩ := bind_eq_ok_iff.mp read
    exact (finish_eq_ok_iff run).mp finished
  · intro stated
    have readable : ∀ field ∈ record dialect,
        ∃ held, Reads field.read (valuesOf field.name fields) held := by
      obtain ⟨bucket, folder, transfers, backend⟩ := stated
      rw [← given_required_iff] at bucket
      rw [← readAs_asText dialect] at bucket folder
      rw [← readAs_asBool dialect] at transfers
      intro field member
      fin_cases member
      · exact bucket.reads
      · exact folder.reads
      · exact transfers.reads
      · exact backend.reads
    obtain ⟨final, run⟩ : ∃ final, (keyed fields).foldlM (Draft.step dialect) {} = .ok final :=
      (isRecord dialect).exists_run_of_empty
        (fun field member => by fin_cases member <;> rfl) readable
    exact bind_eq_ok_iff.mpr ⟨final, run, (finish_eq_ok_iff run).mpr stated⟩

/-- A list is read as the configuration whose settings stand in it in their order, as far as the
dialect lets it go on behind them. -/
theorem ofDatum_list {items : List Datum} :
    ofDatum dialect (.list items) = .ok config ↔
      config.Stated (ReadAs (Backend.ofDatum dialect)) (placed items) ∧
        (items.length ≤ 4 ∨ dialect.longLists = true) := by
  have fits : (4 < items.length && !dialect.longLists) = false ↔
      items.length ≤ 4 ∨ dialect.longLists = true := by
    rw [Bool.and_eq_false_iff, decide_eq_false_iff_not, Nat.not_lt, Bool.not_eq_false']
  rw [← fits]
  constructor
  · intro read
    obtain ⟨bucketName, bucket, read⟩ := bind_eq_ok_iff.mp read
    obtain ⟨baseFolder, folder, read⟩ := bind_eq_ok_iff.mp read
    obtain ⟨disableMultipart, transfers, read⟩ := bind_eq_ok_iff.mp read
    obtain ⟨backend, backendAt, read⟩ := bind_eq_ok_iff.mp read
    rw [fieldAt_eq_ok_iff] at bucket folder transfers backendAt
    rw [readAs_asText] at bucket folder
    rw [given_required_iff] at bucket
    rw [readAs_asBool] at transfers
    split at read
    next => cases read
    next short =>
      cases read
      exact ⟨⟨bucket, folder, transfers, backendAt⟩, Bool.eq_false_iff.mpr short⟩
  · intro stated
    obtain ⟨⟨bucket, folder, transfers, backend⟩, short⟩ := stated
    rw [← given_required_iff] at bucket
    rw [← readAs_asText dialect] at bucket folder
    rw [← readAs_asBool dialect] at transfers
    refine bind_eq_ok_iff.mpr ⟨_, fieldAt_eq_ok_iff.mpr bucket, ?_⟩
    refine bind_eq_ok_iff.mpr ⟨_, fieldAt_eq_ok_iff.mpr folder, ?_⟩
    refine bind_eq_ok_iff.mpr ⟨_, fieldAt_eq_ok_iff.mpr transfers, ?_⟩
    refine bind_eq_ok_iff.mpr ⟨_, fieldAt_eq_ok_iff.mpr backend, ?_⟩
    rw [short]
    rfl

variable {datum : Datum}

/-- What spells a configuration is read as it. -/
theorem Spelled.ofDatum_eq (spelled : config.Spelled dialect datum) :
    ofDatum dialect datum = .ok config := by
  cases spelled with
  | object stated =>
      exact ofDatum_keyed.mpr (stated.mono fun _ _ _ spelled => spelled.ofDatum_eq)
  | list stated fits =>
      exact ofDatum_list.mpr ⟨stated.mono fun _ _ _ spelled => spelled.ofDatum_eq, fits⟩

/-- Whatever JSON is read as a configuration spells it. -/
theorem spelled_of_ofDatum (json : datum.IsJson) (read : ofDatum dialect datum = .ok config) :
    config.Spelled dialect datum := by
  cases json with
  | @object fields inside =>
      refine .object ((ofDatum_keyed.mp read).mono fun backend member _ meant => ?_)
      obtain ⟨field, kept, rfl⟩ := List.mem_map.mp member
      exact Backend.spelled_of_ofDatum (inside field (List.mem_filter.mp kept).1) meant
  | @list items inside =>
      obtain ⟨stated, fits⟩ := ofDatum_list.mp read
      refine .list (stated.mono fun backend member _ meant => ?_) fits
      have item : backend ∈ items := List.mem_of_getElem? (Option.mem_toList.mp member)
      exact Backend.spelled_of_ofDatum (inside backend item) meant
  | _ => cases read

/-- A configuration is written in one of the forms that spell it. -/
theorem spelled_toDatum (dialect : Dialect) (config : StoreConfig) :
    config.Spelled dialect config.toDatum := by
  change Spelled _ _ (.map (keyed [("bucket_name", .text config.bucketName),
    ("base_folder", .text config.baseFolder), ("disable_multipart", .bool config.disableMultipart),
    ("backend", config.backend.toDatum)]))
  exact .object ⟨rfl, .stated rfl, .stated rfl, .stated (Backend.spelled_toDatum _)⟩

/-- The settings in their order. -/
def listed (config : StoreConfig) : List Datum :=
  [.text config.bucketName, .text config.baseFolder, .bool config.disableMultipart,
    .list config.backend.listed]

theorem spelled_listed (dialect : Dialect) (config : StoreConfig) :
    config.Spelled dialect (.list config.listed) :=
  .list ⟨rfl, .stated rfl, .stated rfl, .stated .list⟩ (.inl le_rfl)

/-- What reading makes of the forms of a configuration. -/
structure FormLaw (dialect : Dialect) (config : StoreConfig) : Prop where
  written : ofDatum dialect config.toDatum = .ok config
  positional : ofDatum dialect (.list config.listed) = .ok config
  tolerant : ∀ datum, config.Spelled dialect datum → ofDatum dialect datum = .ok config
  /-- Nothing else that JSON can say is read as the configuration. -/
  complete : ∀ datum, datum.IsJson → ofDatum dialect datum = .ok config →
    config.Spelled dialect datum
  apart : ∀ other : StoreConfig, config.toDatum = other.toDatum ↔ config = other
  /-- What has been read is read the same once it is written again. -/
  settled : ∀ datum, ofDatum dialect datum = .ok config →
    ofDatum dialect config.toDatum = ofDatum dialect datum

/-- **A configuration is read from each of its forms and from nothing else.** -/
theorem formLaw (dialect : Dialect) (config : StoreConfig) : FormLaw dialect config where
  written := (spelled_toDatum dialect config).ofDatum_eq
  positional := (spelled_listed dialect config).ofDatum_eq
  tolerant _ := Spelled.ofDatum_eq
  complete _ := spelled_of_ofDatum
  apart other := by
    constructor
    · intro same
      have read := (spelled_toDatum dialect config).ofDatum_eq
      rw [same, (spelled_toDatum dialect other).ofDatum_eq] at read
      exact (Except.ok.inj read).symm
    · exact congrArg toDatum
  settled datum read := by
    rw [read]
    exact (spelled_toDatum dialect config).ofDatum_eq

example (dialect : Dialect) :
    ofDatum dialect (.map (keyed [("note", .unit),
      ("backend", .map (keyed [("region", .text defaultRegion), ("type", .text "memory")])),
      ("bucket_name", .text "mlpipeline")])) =
        .ok ⟨"mlpipeline", defaultBaseFolder, true, .memory⟩ := rfl

end StoreConfig

end PipelineDepot
