import PipelineDepot.Config.File
import PipelineDepot.Proofs.Config.Check
import PipelineDepot.Proofs.Config.Substitution
import PipelineDepot.Proofs.Toml.Statement

/-! # Configuration files with keys from the environment

A configuration file of a store on a server states the settings of the store, and refers to
variables for the keys of the server. With the variables set, it is filled in between the quotes of
the keys and nowhere else (`KeyFile.substitute_text`), whatever the settings are, since each dollar
sign in a setting is escaped.
-/

namespace PipelineDepot

open Toml (Line Spells codeEscape isPlain quoted)
open Config (IsName referenceText substitute)

/-- A configuration file of a store on a server: the settings that it states, and the names of the
variables that its keys refer to. -/
structure KeyFile where
  bucketName : String
  baseFolder : Option String := none
  disableMultipart : Option Bool := none
  endpoint : String
  region : Option String := none
  accessName : String
  secretName : String

namespace KeyFile

/-! ## Settings -/

/-- A setting as it is written, with an escape for each character that does not stand for itself
or begins a reference. -/
def spell (value : String) : List Char :=
  value.toList.flatMap fun c => if isPlain c && c != '$' then [c] else '\\' :: codeEscape c

theorem small_of_marked {c : Char} (marked : ¬(isPlain c && c != '$') = true) :
    c.toNat < 0x100 := by
  by_contra large
  apply marked
  have other {d : Char} (small : d.toNat < 0x100) : (c != d) = true := by
    rw [bne_iff_ne]
    rintro rfl
    exact large small
  have kept : Toml.isRefused c = false := by
    simp only [Toml.isRefused, Bool.or_eq_false_iff, Bool.and_eq_false_iff, decide_eq_false_iff_not,
      beq_eq_false_iff_ne]
    omega
  simp only [isPlain, kept, other (d := '"') (by decide), other (d := '\\') (by decide),
    other (d := '$') (by decide), Bool.not_false, Bool.and_self]

/-- Every text can be spelled out. -/
theorem spells_spell (value : String) : Spells (spell value) value.toList := by
  unfold spell
  induction value.toList with
  | nil => exact .nil
  | cons c chars ih =>
      rw [List.flatMap_cons]
      split
      next kept => exact .itself (Bool.and_eq_true_iff.mp kept).1 ih
      next marked => exact .escaped (Toml.isEscape_codeEscape (small_of_marked marked)) ih

/-- Spelling a text out leaves no reference in it. -/
theorem no_dollar_spell (value : String) : '$' ∉ spell value := by
  intro member
  obtain ⟨c, -, member⟩ := List.mem_flatMap.mp member
  split at member
  next kept =>
    rw [List.mem_singleton] at member
    subst member
    contradiction
  next marked =>
    obtain backslash | member := List.mem_cons.mp member
    · contradiction
    · exact absurd (Toml.isAlphanum_codeEscape (small_of_marked marked) member) (by decide)

/-! ## The file -/

variable (file : KeyFile)

/-- The lines in front of the keys. -/
def frontLines : List Line :=
  .header ["store"] :: .entry "bucket_name" (quoted (spell file.bucketName)) ::
    (file.baseFolder.toList.map fun folder => .entry "base_folder" (quoted (spell folder))) ++
    (file.disableMultipart.toList.map fun flag =>
      .entry "disable_multipart" (toString flag).toList) ++
    .header ["store", "backend"] :: .entry "type" (quoted (spell "s3")) ::
    .entry "endpoint" (quoted (spell file.endpoint)) ::
    file.region.toList.map fun region => .entry "region" (quoted (spell region))

/-- The characters of the lines of the keys. -/
def keyText (access secret : List Char) : List Char :=
  (Line.entry "access_key" (quoted access)).render ++
    (Line.entry "secret_key" (quoted secret)).render

/-- The characters of the file with texts between the quotes of its keys. -/
def textWith (access secret : List Char) : List Char :=
  file.frontLines.flatMap Line.render ++ keyText access secret

/-- The text of the file, whose keys are references. -/
def text : String :=
  String.ofList
    (file.textWith (referenceText file.accessName.toList) (referenceText file.secretName.toList))

/-- The settings of the server that the file is meant to give with its keys. -/
def settings (access secret : String) : S3Settings where
  endpoint := some file.endpoint
  region := file.region.getD defaultRegion
  accessKey := some access
  secretKey := some secret

/-- What the file is meant to give with its keys. -/
def config (access secret : String) : ConfigFile where
  store := {
    bucketName := file.bucketName
    baseFolder := file.baseFolder.getD defaultBaseFolder
    disableMultipart := file.disableMultipart.getD true
    backend := .s3 (file.settings access secret) }
  logging := none

/-- The settings that the file states are valid, and its references hold names. -/
structure Sound [UrlReader] : Prop where
  bucket : Validation.bucketName "bucket_name" file.bucketName = .ok ()
  folder : Validation.keyPrefix "base_folder" (file.baseFolder.getD defaultBaseFolder) = .ok ()
  endpoint : Validation.url "backend.endpoint" file.endpoint = .ok ()
  region : Validation.region "backend.region" (file.region.getD defaultRegion) = .ok ()
  accessName : IsName file.accessName.toList
  secretName : IsName file.secretName.toList

variable {file} in
/-- Whatever the keys are, what a sound file is meant to give is sound. -/
theorem Sound.validate [UrlReader] (sound : file.Sound) (access secret : String) :
    (file.config access secret).validate = .ok () := by
  have server : (file.settings access secret).validate = .ok () := by
    refine S3Settings.validate_eq_ok_iff.mpr ⟨?_, sound.region, rfl⟩
    rintro endpoint ⟨⟩
    exact sound.endpoint
  have store : (file.config access secret).store.validate = .ok () :=
    StoreConfig.validate_eq_ok_iff.mpr ⟨sound.bucket, sound.folder, server⟩
  exact check_bind_eq_ok_iff.mpr ⟨store, rfl⟩

/-! ## References to the keys -/

theorem no_dollar_entry {name : String} (bare : '$' ∉ name.toList) {written : List Char}
    (free : '$' ∉ written) : '$' ∉ (Line.entry name written).render := by
  simp [Line.render, bare, free]

theorem no_dollar_front : '$' ∉ file.frontLines.flatMap Line.render := by
  have text {name : String} (bare : '$' ∉ name.toList) (value : String) :
      '$' ∉ (Line.entry name (quoted (spell value))).render :=
    no_dollar_entry bare (by simp [quoted, no_dollar_spell])
  intro member
  obtain ⟨line, member, dollar⟩ := List.mem_flatMap.mp member
  simp only [frontLines, List.mem_append, List.mem_cons, List.mem_map] at member
  obtain ((rfl | rfl | ⟨_, _, rfl⟩) | ⟨flag, _, rfl⟩) | rfl | rfl | rfl | ⟨_, _, rfl⟩ := member
  · exact absurd dollar (by decide)
  · exact text (by decide) _ dollar
  · exact text (by decide) _ dollar
  · exact no_dollar_entry (by decide) (by cases flag <;> decide) dollar
  · exact absurd dollar (by decide)
  · exact text (by decide) _ dollar
  · exact text (by decide) _ dollar
  · exact text (by decide) _ dollar

theorem textWith_eq (access secret : List Char) :
    file.textWith access secret =
      (file.frontLines.flatMap Line.render ++ "access_key = \"".toList) ++
        (access ++ ("\"\nsecret_key = \"".toList ++ (secret ++ ("\"\n".toList ++ [])))) := by
  simp [textWith, keyText, Line.render, quoted]

/-- The references of the file are replaced by the values of the keys. -/
theorem substitute_text {environment : Environment} {access secret : String}
    (accessNamed : IsName file.accessName.toList) (secretNamed : IsName file.secretName.toList)
    (accessSet : environment file.accessName = some access)
    (secretSet : environment file.secretName = some secret) :
    substitute environment file.text =
      String.ofList (file.textWith access.toList secret.toList) := by
  have front : '$' ∉ file.frontLines.flatMap Line.render ++ "access_key = \"".toList := by
    rw [List.mem_append, not_or]
    exact ⟨file.no_dollar_front, by decide⟩
  have value {name value : String} (set : environment name = some value) :
      Config.referenceValue environment name.toList = value.toList :=
    Config.referenceValue_of_set (by rwa [String.ofList_toList])
  rw [substitute, text, String.toList_ofList, textWith_eq, textWith_eq,
    Config.fill_append _ front, Config.fill_reference _ accessNamed,
    Config.fill_append _ (by decide), Config.fill_reference _ secretNamed,
    Config.fill_append _ (by decide), Config.fill_nil, value accessSet, value secretSet]

end KeyFile

end PipelineDepot
