import PipelineDepot.Proofs.Config.KeyFile
import PipelineDepot.Proofs.Config.Record
import PipelineDepot.Proofs.Toml.Length
import PipelineDepot.Readers

/-! # Keys from the environment

A configuration file is filled in before it is read, so the value of a variable is read as a part of
the document around it. The keys of a server come through as they are set exactly if they are plain
(`KeyFile.ofText_eq_config_iff`): a quote ends a key early, a backslash begins an escape, and a
control is refused.

That no other key comes through is an argument about lengths. What is read of a key on its own line
is no longer than the key, and shorter if anything in it is escaped. An access key that begins with
two quotes is read on several lines and may take the line of the secret in; then what is left of the
document is too short for the secret.

All of this is about TOML, so the reader of documents is the one of `Readers`. What a URL is does
not matter.
-/

namespace PipelineDepot

open Toml (Draft Entries Line Plain Spells Statement Written quoted)

namespace KeyFile

variable (file : KeyFile)

/-! ## The settings beside the keys -/

/-- A text as a value. -/
def written (value : String) : Written := .scalar (.text value)

/-- What the lines in front of the keys state. -/
def frontStatements : List Statement :=
  .header ["store"] :: .entry ["bucket_name"] (written file.bucketName) ::
    (file.baseFolder.toList.map fun folder => .entry ["base_folder"] (written folder)) ++
    (file.disableMultipart.toList.map fun flag =>
      .entry ["disable_multipart"] (.scalar (.bool flag))) ++
    .header ["store", "backend"] :: .entry ["type"] (written "s3") ::
    .entry ["endpoint"] (written file.endpoint) ::
    file.region.toList.map fun region => .entry ["region"] (written region)

/-- A text under a name, if there is one. -/
def entryOf (name : String) (value : Option String) : Entries :=
  value.toList.map fun value => (name, .value (.text value))

/-- The table of the server. -/
def serverTable (access secret : Option String) : Entries :=
  entryOf "access_key" access ++ entryOf "endpoint" file.endpoint ++ entryOf "region" file.region ++
    entryOf "secret_key" secret ++ entryOf "type" "s3"

/-- The tables of the file. -/
def tables (access secret : Option String) : Entries :=
  [("store", .table .header
    (("backend", .table .header (file.serverTable access secret)) ::
      entryOf "base_folder" file.baseFolder ++ entryOf "bucket_name" file.bucketName ++
      file.disableMultipart.toList.map fun flag => ("disable_multipart", .value (.bool flag))))]

theorem isValue_spell (value : String) : Toml.IsValue (quoted (spell value)) (written value) := by
  have valued := (spells_spell value).isValue
  rwa [String.ofList_toList] at valued

/-- A stated setting has a line, and one that is not stated has none. -/
theorem states_option {α : Type} {stated : Option α} {line : α → Line} {statement : α → Statement}
    (states : ∀ value, (line value).States (statement value)) :
    List.Forall₂ Line.States (stated.toList.map line) (stated.toList.map statement) := by
  cases stated with
  | none => exact .nil
  | some value => exact .cons (states value) .nil

/-- The lines in front of the keys state their settings. -/
theorem states_front : List.Forall₂ Line.States file.frontLines file.frontStatements := by
  have text {name : String} (bare : Toml.IsBare name) (value : String) :
      Line.States (.entry name (quoted (spell value))) (.entry [name] (written value)) :=
    .entry bare (isValue_spell value)
  refine List.rel_append (List.rel_append ?_ ?_) ?_
  · refine .cons (.header (by decide) (by decide)) (.cons (text (by decide) _) ?_)
    exact states_option (text (by decide))
  · exact states_option fun flag => .entry (by decide) (Toml.isValue_bool flag)
  · refine .cons (.header (by decide) (by decide)) (.cons (text (by decide) _) (.cons ?_ ?_))
    · exact text (by decide) _
    · exact states_option (text (by decide))

/-- The place of the keys. -/
def place : Toml.KeyPath := ["store", "backend"]

/-- Up to the keys, the document builds the tables of its other settings. -/
theorem follow_front :
    file.frontStatements.foldlM Draft.follow {} = some ⟨file.tables none none, place⟩ := by
  obtain ⟨bucket, folder, flag, endpoint, region, _, _⟩ := file
  cases folder <;> cases flag <;> cases region <;> rfl

theorem follow_access (key : String) :
    Draft.follow ⟨file.tables none none, place⟩ (.entry ["access_key"] (written key)) =
      some ⟨file.tables key none, place⟩ := by
  obtain ⟨bucket, folder, flag, endpoint, region, _, _⟩ := file
  cases folder <;> cases flag <;> cases region <;> rfl

theorem follow_secret (access key : String) :
    Draft.follow ⟨file.tables access none, place⟩ (.entry ["secret_key"] (written key)) =
      some ⟨file.tables access key, place⟩ := by
  obtain ⟨bucket, folder, flag, endpoint, region, _, _⟩ := file
  cases folder <;> cases flag <;> cases region <;> rfl

/-- The tables of the documented file are read as the configuration that it describes. -/
theorem ofEntries_tables (access secret : String) :
    ConfigFile.ofEntries (Toml.entriesData (file.tables access secret)) =
      .ok (file.config access secret) := by
  obtain ⟨bucket, folder, flag, endpoint, region, _, _⟩ := file
  cases folder <;> cases flag <;> cases region <;> rfl

/-! ## What the keys are read as -/

/-- The lines of the keys are read on top of the settings. -/
theorem document?_textWith (access secret : List Char) :
    ∃ limit, (keyText access secret).length < limit ∧
      Toml.document? (String.ofList (file.textWith access secret)) = (do
        let later ← Statement.readUpTo? limit (keyText access secret)
        let draft ← later.foldlM Draft.follow ⟨file.tables none none, place⟩
        return .map (Toml.entriesData draft.entries)) := by
  obtain ⟨limit, enough, read⟩ :=
    Toml.readAll?_lines file.states_front (keyText access secret)
  refine ⟨limit, enough, ?_⟩
  have front : Statement.readAll? (file.frontLines.flatMap Line.render ++ keyText access secret) =
      (Statement.readUpTo? limit (keyText access secret)).map (file.frontStatements ++ ·) :=
    read
  rw [Toml.document?, String.toList_ofList, textWith, front]
  cases Statement.readUpTo? limit (keyText access secret) with
  | none => rfl
  | some later =>
      simp only [Option.map_some, Option.bind_eq_bind, Option.bind_some, List.foldlM_append,
        file.follow_front]

/-- What is read from the line of a key on. -/
theorem readUpTo?_key {name : String} (bare : Toml.IsBare name) {limit : Nat}
    {key rest : List Char} {statements : List Statement}
    (read : Statement.readUpTo? limit ((Line.entry name (quoted key)).render ++ rest) =
      some statements) :
    ∃ body behind next limit later,
      Toml.text? ('"' :: (key ++ '"' :: '\n' :: rest)) = some (body, behind) ∧
      Statement.lineRest? behind = some next ∧ Statement.readUpTo? limit next = some later ∧
      statements = .entry [name] (written (String.ofList body)) :: later := by
  cases limit with
  | zero => contradiction
  | succ limit =>
      rw [Toml.readUpTo?_quoted bare] at read
      obtain ⟨⟨body, behind⟩, text, read⟩ := Option.bind_eq_some_iff.mp read
      obtain ⟨next, ended, read⟩ := Option.bind_eq_some_iff.mp read
      obtain ⟨later, rest, same⟩ := Option.bind_eq_some_iff.mp read
      cases same
      exact ⟨body, behind, next, limit, later, text, ended, rest, rfl⟩

theorem valueAt_access (access : String) (secret : Option String) :
    Entries.valueAt (place ++ ["access_key"]) (file.tables access secret) =
      some (.text access) := by
  obtain ⟨bucket, folder, flag, endpoint, region, _, _⟩ := file
  cases folder <;> cases flag <;> cases region <;> rfl

theorem valueAt_secret (access : String) (secret : Option String) :
    Entries.valueAt (place ++ ["secret_key"]) (file.tables access secret) =
      secret.map .text := by
  obtain ⟨bucket, folder, flag, endpoint, region, _, _⟩ := file
  cases folder <;> cases flag <;> cases region <;> cases secret <;> rfl

/-- A configuration with keys was read from tables that hold them. -/
theorem valueAt_of_ofEntries {entries : Entries} {access secret other : String}
    (held : Entries.valueAt (place ++ ["access_key"]) entries = some (.text other))
    (read : ConfigFile.ofEntries (Toml.entriesData entries) = .ok (file.config access secret)) :
    other = access ∧
      Entries.valueAt (place ++ ["secret_key"]) entries = some (.text secret) := by
  obtain ⟨_, store, storeAt, inStore⟩ := Entries.table_of_valueAt held
  obtain ⟨_, backend, backendAt, _⟩ := Entries.table_of_valueAt inStore
  obtain ⟨accessRead, -⟩ := ConfigFile.keys_eq_some_iff storeAt backendAt read rfl other
  obtain ⟨-, secretRead⟩ := ConfigFile.keys_eq_some_iff storeAt backendAt read rfl secret
  exact ⟨(Option.some.inj (accessRead.mpr held)).symm, secretRead.mp rfl⟩

/-- Three quotes behind a text without quotes leave out as much of what is behind it. -/
theorem length_of_quotes {lead text gone rest : List Char} (free : '"' ∉ lead)
    (same : lead ++ text = gone ++ '"' :: '"' :: '"' :: rest) : rest.length + 3 ≤ text.length := by
  obtain ⟨more, rfl, left⟩ | ⟨more, rfl, left⟩ := List.append_eq_append_iff.mp same
  · rw [left]
    simp
  · cases more with
    | nil =>
        rw [List.nil_append] at left
        rw [← left]
        exact Nat.le_refl _
    | cons quote more =>
        obtain ⟨rfl, -⟩ := List.cons.inj left
        exact absurd (by simp) free

/-- A secret that is read from its own line is plain. -/
theorem plain_secret {access : String} {secret : List Char} {limit : Nat} {later : List Statement}
    {final : Draft}
    (read : Statement.readUpTo? limit (Line.entry "secret_key" (quoted secret)).render = some later)
    (followed : later.foldlM Draft.follow ⟨file.tables access none, place⟩ = some final)
    (held : Entries.valueAt (place ++ ["secret_key"]) final.entries =
      some (.text (String.ofList secret))) : Plain secret := by
  have bare : Toml.IsBare "secret_key" := by decide
  rw [← List.append_nil (Line.render _)] at read
  obtain ⟨body, _, _, _, _, text, _, _, rfl⟩ := readUpTo?_key bare read
  rw [List.foldlM_cons, follow_secret, Option.bind_eq_bind, Option.bind_some] at followed
  have kept := (Draft.grows_foldlM followed).kept (file.valueAt_secret access (String.ofList body))
  rw [kept, Option.some.injEq, Datum.text.injEq, String.ofList_inj] at held
  subst held
  obtain ⟨plain, -⟩ | ⟨gone, beyond⟩ := Toml.plain_of_text? text
  · exact plain
  · exact absurd (congrArg List.length beyond) (by simp)

/-- A secret that is read from elsewhere is shorter than what is read. -/
theorem length_secret {access secret : String} {limit : Nat} {text : List Char}
    {later : List Statement} {final : Draft}
    (read : Statement.readUpTo? limit text = some later)
    (followed : later.foldlM Draft.follow ⟨file.tables access none, place⟩ = some final)
    (held : Entries.valueAt (place ++ ["secret_key"]) final.entries = some (.text secret)) :
    secret.length + 2 ≤ text.length := by
  obtain known | ⟨statement, member, path, value, rfl, meant⟩ :=
    (Draft.grows_foldlM followed).fresh held
  · rw [valueAt_secret] at known
    contradiction
  · rw [Toml.Written.eq_scalar_of_datum? meant] at member
    exact Statement.length_text_of_mem read member

/-- Keys that come back as they were put in stand for themselves between quotes. -/
theorem plain_of_decode {access secret : List Char}
    (read : ConfigFile.decode (String.ofList (file.textWith access secret)) =
      .ok (file.config (String.ofList access) (String.ofList secret))) :
    Plain access ∧ Plain secret := by
  obtain ⟨limit, -, document⟩ := file.document?_textWith access secret
  obtain ⟨entries, found, read⟩ := ConfigFile.decode_eq_ok_iff.mp read
  obtain ⟨statements, lines, found⟩ := Option.bind_eq_some_iff.mp (document.symm.trans found)
  obtain ⟨final, followed, same⟩ := Option.bind_eq_some_iff.mp found
  cases same
  rw [keyText] at lines
  have bare : Toml.IsBare "access_key" := by decide
  obtain ⟨body, behind, next, limit, later, text, ended, rest, rfl⟩ := readUpTo?_key bare lines
  rw [List.foldlM_cons, follow_access, Option.bind_eq_bind, Option.bind_some] at followed
  obtain ⟨same, held⟩ :=
    file.valueAt_of_ofEntries ((Draft.grows_foldlM followed).kept (file.valueAt_access _ none)) read
  rw [String.ofList_inj] at same
  subst same
  obtain ⟨plain, rfl⟩ | ⟨gone, beyond⟩ := Toml.plain_of_text? text
  · cases ended
    exact ⟨plain, file.plain_secret rest followed held⟩
  · -- The access key takes the line of the secret in, and what is left is too short for the secret.
    exfalso
    have long := file.length_secret rest followed held
    have shorter := Statement.length_lineRest?_le ended
    have line : "secret_key = ".toList ++ '"' :: (secret ++ ['"', '\n']) =
        gone ++ '"' :: '"' :: '"' :: behind := by
      rw [← beyond]
      simp [Line.render, quoted]
    have left := length_of_quotes (by decide) line
    simp only [List.length_cons, List.length_append, List.length_nil] at left
    rw [String.length_ofList] at long
    omega

/-- Keys that spell a text in the file are read as that text. -/
theorem decode_of_spells {access secret accessBody secretBody : List Char}
    (accessSpelled : Spells access accessBody) (secretSpelled : Spells secret secretBody) :
    ConfigFile.decode (String.ofList (file.textWith access secret)) =
      .ok (file.config (String.ofList accessBody) (String.ofList secretBody)) := by
  obtain ⟨limit, enough, document⟩ := file.document?_textWith access secret
  have states : List.Forall₂ Line.States
      [.entry "access_key" (quoted access), .entry "secret_key" (quoted secret)]
      [.entry ["access_key"] (written (String.ofList accessBody)),
        .entry ["secret_key"] (written (String.ofList secretBody))] :=
    .cons (.entry (by decide) accessSpelled.isValue)
      (.cons (.entry (by decide) secretSpelled.isValue) .nil)
  obtain ⟨limit, rfl⟩ : ∃ more, limit = more + 1 + 2 := by
    refine ⟨limit - 3, ?_⟩
    have two := Toml.length_le_render [.entry "access_key" (quoted access),
      .entry "secret_key" (quoted secret)]
    simp only [List.flatMap_cons, List.flatMap_nil, List.append_nil, List.length_cons,
      List.length_nil] at two
    rw [keyText] at enough
    omega
  have lines := Toml.readUpTo?_lines states (limit + 1) []
  have ended : Statement.readUpTo? (limit + 1) [] = some [] := rfl
  simp only [List.flatMap_cons, List.flatMap_nil, List.append_nil, List.length_cons,
    List.length_nil, ended] at lines
  refine ConfigFile.decode_eq_ok_iff.mpr ⟨_, document.trans ?_, file.ofEntries_tables _ _⟩
  rw [keyText, lines]
  simp only [Option.map_some, List.append_nil, Option.bind_eq_bind, Option.bind_some,
    List.foldlM_cons, List.foldlM_nil, follow_access, follow_secret]
  rfl

/-! ## What a file gives -/

section Given

variable [UrlReader] {file} {environment : Environment} {access secret : String}

/-- A file gives the keys that the values of its variables spell. -/
theorem ofText_of_spells (sound : file.Sound)
    (accessSet : environment file.accessName = some access)
    (secretSet : environment file.secretName = some secret) {accessBody secretBody : List Char}
    (accessSpelled : Spells access.toList accessBody)
    (secretSpelled : Spells secret.toList secretBody) :
    ConfigFile.ofText environment file.text =
      .ok (file.config (String.ofList accessBody) (String.ofList secretBody)) := by
  rw [ConfigFile.ofText_eq_ok_iff,
    file.substitute_text sound.accessName sound.secretName accessSet secretSet]
  exact ⟨file.decode_of_spells accessSpelled secretSpelled, sound.validate _ _⟩

/-- **Keys from the environment.** A file whose keys are references to variables that are set gives
the keys as they are set, beside the settings that it states, exactly if each character of both keys
stands for itself between quotes. -/
theorem ofText_eq_config_iff (sound : file.Sound)
    (accessSet : environment file.accessName = some access)
    (secretSet : environment file.secretName = some secret) :
    ConfigFile.ofText environment file.text = .ok (file.config access secret) ↔
      Plain access.toList ∧ Plain secret.toList := by
  constructor
  · intro given
    rw [ConfigFile.ofText_eq_ok_iff,
      file.substitute_text sound.accessName sound.secretName accessSet secretSet] at given
    apply file.plain_of_decode
    rw [String.ofList_toList, String.ofList_toList]
    exact given.1
  · rintro ⟨accessPlain, secretPlain⟩
    have given := ofText_of_spells sound accessSet secretSet accessPlain.spells secretPlain.spells
    rwa [String.ofList_toList, String.ofList_toList] at given

end Given

/-! ## A file with keys -/

/-- The configuration file that the documentation of the format shows. -/
def documented : KeyFile where
  bucketName := "mlpipeline"
  baseFolder := some "pipelines"
  disableMultipart := some true
  endpoint := "http://minio-service:9000"
  accessName := "MINIO_ACCESS_KEY"
  secretName := "MINIO_SECRET_KEY"

example : documented.text =
    "\n[store]\nbucket_name = \"mlpipeline\"\nbase_folder = \"pipelines\"\n" ++
    "disable_multipart = true\n\n[store.backend]\ntype = \"s3\"\n" ++
    "endpoint = \"http://minio-service:9000\"\naccess_key = \"$\x7bMINIO_ACCESS_KEY\x7d\"\n" ++
    "secret_key = \"$\x7bMINIO_SECRET_KEY\x7d\"\n" := by
  cbv

theorem sound_documented : documented.Sound where
  bucket := by decide
  folder := by decide
  endpoint := by decide +kernel
  region := by decide
  accessName := ⟨by decide, by decide⟩
  secretName := ⟨by decide, by decide⟩

/-- The variables of the documented file, set to keys. -/
def documentedKeys (access secret : String) : Environment :=
  .ofPairs [("MINIO_ACCESS_KEY", access), ("MINIO_SECRET_KEY", secret)]

theorem documentedKeys_access (access secret : String) :
    documentedKeys access secret documented.accessName = some access :=
  rfl

theorem documentedKeys_secret (access secret : String) :
    documentedKeys access secret documented.secretName = some secret :=
  rfl

/-- Of the documented file, a key with a dollar sign comes through and one with a quote does not. -/
theorem ofText_eq_config_iff_documented :
    ConfigFile.ofText (documentedKeys "minio" "$\x7bminio\x7d") documented.text =
      .ok (documented.config "minio" "$\x7bminio\x7d") ∧
    ConfigFile.ofText (documentedKeys "minio" "mi\"nio") documented.text ≠
      .ok (documented.config "minio" "mi\"nio") := by
  constructor
  · exact (ofText_eq_config_iff sound_documented (documentedKeys_access _ _)
      (documentedKeys_secret _ _)).mpr (by decide)
  · intro given
    have plain := (ofText_eq_config_iff sound_documented (documentedKeys_access _ _)
      (documentedKeys_secret _ _)).mp given
    exact absurd plain.2 (by decide)

/-- A backslash and a letter in a key may become another character. -/
theorem backslash_not_kept :
    documented.Sound ∧
    ConfigFile.ofText (documentedKeys "a\\tb" "minio123") documented.text =
      .ok (documented.config "a\tb" "minio123") ∧
    documented.config "a\tb" "minio123" ≠ documented.config "a\\tb" "minio123" := by
  have tab : Toml.IsEscape ['t'] '\t' := ⟨by decide, by decide, fun _ => rfl⟩
  have spelled : Spells ['a', '\\', 't', 'b'] ['a', '\t', 'b'] :=
    .itself rfl (.escaped tab (.itself rfl .nil))
  have plain : Plain "minio123".toList := by decide
  exact ⟨sound_documented, ofText_of_spells sound_documented (documentedKeys_access _ _)
    (documentedKeys_secret _ _) spelled plain.spells, by decide⟩

end KeyFile

end PipelineDepot
