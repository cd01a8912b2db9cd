import Mathlib.Data.String.Basic
import PipelineDepot.Proofs.BucketName
import PipelineDepot.Proofs.Config.Check

/-! # The grammar of configurations

Each setting has a rule that can be said without the checks, and `StoreConfig.Sound` is all of them.
A rule can be broken in several ways, each with a reason of its own (`BucketFault`, `RootFault`,
`EndpointFault`, `RegionFault`). The checks of a configuration accept exactly what keeps all rules;
otherwise they report the first setting that breaks its rule, with its value and the reason
(`StoreConfig.judged`). An endpoint is whatever the reader of URLs reads with a scheme of the web;
all that the rules ask of the reader is that it does not take the empty text for a URL.

The checks measure a bucket in bytes where its rule counts characters. Both come to the same, since
the letters of a bucket are ASCII (`Validation.tested_iff`).
-/

namespace PipelineDepot

namespace Validation

/-! ## Letters -/

/-- A letter of a name. -/
def IsNameLetter (letter : Char) : Prop :=
  ('a' ≤ letter ∧ letter ≤ 'z') ∨ ('0' ≤ letter ∧ letter ≤ '9') ∨ letter = '-'

/-- A letter of a bucket, whose name can have dots. -/
def IsBucketLetter (letter : Char) : Prop := IsNameLetter letter ∨ letter = '.'

/-- A text of ASCII characters. -/
def Ascii (text : String) : Prop := ∀ letter ∈ text.toList, letter.toNat ≤ 127

section Letters

variable {letter : Char}

theorem isNameChar_iff : isNameChar letter = true ↔ IsNameLetter letter := by
  have lower : letter.isLower = true ↔ 'a' ≤ letter ∧ letter ≤ 'z' :=
    Bool.and_eq_true_iff.trans (and_congr decide_eq_true_iff decide_eq_true_iff)
  have digit : letter.isDigit = true ↔ '0' ≤ letter ∧ letter ≤ '9' :=
    Bool.and_eq_true_iff.trans (and_congr decide_eq_true_iff decide_eq_true_iff)
  rw [isNameChar, Bool.or_eq_true, Bool.or_eq_true, lower, digit, beq_iff_eq, or_assoc,
    IsNameLetter]

theorem IsNameLetter.range (named : IsNameLetter letter) :
    45 ≤ letter.toNat ∧ letter.toNat ≤ 127 := by
  have code : letter.toNat = letter.val.toNat := rfl
  rcases named with ⟨low, high⟩ | ⟨low, high⟩ | rfl
  · have low : 97 ≤ letter.val.toNat := low
    have high : letter.val.toNat ≤ 122 := high
    omega
  · have low : 48 ≤ letter.val.toNat := low
    have high : letter.val.toNat ≤ 57 := high
    omega
  · decide

theorem IsNameLetter.not_isBlank (named : IsNameLetter letter) : Text.isBlank letter = false := by
  have range := named.range
  simp only [Text.isBlank, Bool.or_eq_false_iff, Bool.and_eq_false_iff, decide_eq_false_iff_not,
    beq_eq_false_iff_ne]
  omega

theorem IsBucketLetter.le (allowed : IsBucketLetter letter) : letter.toNat ≤ 127 := by
  rcases allowed with named | rfl
  · exact named.range.2
  · decide

end Letters

/-- A text of ASCII characters has as many bytes as characters. -/
theorem Ascii.utf8ByteSize_eq {text : String} (ascii : Ascii text) :
    text.utf8ByteSize = text.length := by
  have sizes (letters : List Char) (ascii : ∀ letter ∈ letters, letter.toNat ≤ 127) :
      String.utf8Len letters = letters.length := by
    induction letters with
    | nil => rfl
    | cons letter letters ih =>
        have single : letter.utf8Size = 1 :=
          Char.utf8Size_eq_one_iff.mpr (ascii letter List.mem_cons_self)
        rw [String.utf8Len, single, ih fun other member => ascii other (.tail _ member),
          List.length_cons]
  rw [← String.length_toList, ← sizes text.toList ascii, ← String.utf8ByteSize_ofList,
    String.ofList_toList]

/-! ## The rules of single settings -/

/-- The rule of buckets. -/
structure IsBucketName (name : String) : Prop where
  length : 3 ≤ name.length ∧ name.length ≤ 63
  letters : ∀ letter ∈ name.toList, IsBucketLetter letter
  first : name.toList.head? ≠ some '-'
  last : name.toList.getLast? ≠ some '-'

/-- The two tests of a bucket that measure it: one counts bytes, the other looks at characters. -/
def Tested (name : String) : Prop :=
  (3 ≤ name.utf8ByteSize ∧ name.utf8ByteSize ≤ 63) ∧
    ∀ letter ∈ name.toList, isNameChar letter ∨ letter = '.'

/-- The rule of base folders. -/
def IsKeyPrefix (folder : String) : Prop := '\x00' ∉ folder.toList

/-- The rule of directories. -/
def IsRoot (root : String) : Prop := root ≠ "" ∧ '\x00' ∉ root.toList

/-- The rule of endpoints. -/
def IsEndpoint [UrlReader] (endpoint : String) : Prop :=
  ∃ scheme, UrlReader.scheme endpoint = .ok scheme ∧ (scheme = "http" ∨ scheme = "https")

/-- The rule of regions. -/
def IsRegion (region : String) : Prop :=
  region ≠ "" ∧ ∀ letter ∈ region.toList, IsNameLetter letter

/-! ## The ways to break them, with their reasons -/

/-- Why a text is no bucket. The first of these that applies is the reason. -/
inductive BucketFault (name : String) : String → Prop
  | empty (nothing : name = "") : BucketFault name "Bucket name cannot be empty"
  | length (something : name ≠ "") (off : ¬(3 ≤ name.utf8ByteSize ∧ name.utf8ByteSize ≤ 63)) :
      BucketFault name "Bucket name must be between 3 and 63 characters"
  | letter (fits : 3 ≤ name.utf8ByteSize ∧ name.utf8ByteSize ≤ 63) {letter : Char}
      (member : letter ∈ name.toList) (foreign : ¬IsBucketLetter letter) :
      BucketFault name
        "Bucket name can only contain lowercase letters, numbers, hyphens, and dots"
  | hyphen (fits : 3 ≤ name.utf8ByteSize ∧ name.utf8ByteSize ≤ 63)
      (letters : ∀ letter ∈ name.toList, IsBucketLetter letter)
      (bordered : name.toList.head? = some '-' ∨ name.toList.getLast? = some '-') :
      BucketFault name "Bucket name cannot start or end with a hyphen"

/-- Why a text is no directory. -/
inductive RootFault (root : String) : String → Prop
  | empty (nothing : root = "") : RootFault root "Path cannot be empty"
  | null (member : '\x00' ∈ root.toList) : RootFault root "Path contains null bytes"

/-- Why a text is no endpoint. -/
inductive EndpointFault [UrlReader] (endpoint : String) : String → Prop
  | empty (nothing : endpoint = "") : EndpointFault endpoint "URL cannot be empty"
  | malformed (something : endpoint ≠ "") {complaint : String}
      (unread : UrlReader.scheme endpoint = .error complaint) :
      EndpointFault endpoint ("Invalid URL format: " ++ complaint)
  | foreign {scheme : String} (read : UrlReader.scheme endpoint = .ok scheme)
      (other : scheme ≠ "http" ∧ scheme ≠ "https") :
      EndpointFault endpoint ("Unsupported URL scheme: " ++ scheme)

/-- Why a text is no region. -/
inductive RegionFault (region : String) : String → Prop
  | blank (nothing : ∀ letter ∈ region.toList, Text.isBlank letter = true) :
      RegionFault region "Value cannot be empty or whitespace-only"
  | letter {seen letter : Char} (something : seen ∈ region.toList)
      (visible : Text.isBlank seen = false) (member : letter ∈ region.toList)
      (foreign : ¬IsNameLetter letter) :
      RegionFault region "Region can only contain lowercase letters, numbers, and hyphens"

/-! ## What the checks of single settings come to -/

section Checks

variable {field value : String} {error : StoreError}

/-- A check that fails reports its own field, value and reason. -/
theorem ensure_eq_error_iff {kept : Bool} {reason : String} :
    ensure kept field value reason = .error error ↔
      ¬kept = true ∧ error = .invalid field value reason := by
  cases kept with
  | true => exact ⟨nofun, fun failed => absurd rfl failed.1⟩
  | false =>
      simp only [ensure, Bool.false_eq_true, ↓reduceIte, Except.error.injEq, not_false_eq_true,
        true_and]
      exact eq_comm

/-- The test in bytes and the one for letters are about characters. -/
theorem tested_iff :
    Tested value ↔
      (3 ≤ value.length ∧ value.length ≤ 63) ∧ ∀ letter ∈ value.toList, IsBucketLetter letter := by
  simp only [Tested, isNameChar_iff]
  refine and_congr_left fun letters => ?_
  have ascii : Ascii value := fun letter member => IsBucketLetter.le (letters letter member)
  rw [ascii.utf8ByteSize_eq]

/-- A bucket passes just when it keeps the rule of buckets. -/
theorem bucketName_eq_ok_iff_isBucketName :
    bucketName field value = .ok () ↔ IsBucketName value := by
  rw [bucketName_eq_ok_iff]
  constructor
  · rintro ⟨-, fits, letters, first, last⟩
    obtain ⟨length, letters⟩ := tested_iff.mp ⟨fits, letters⟩
    exact ⟨length, letters, first, last⟩
  · rintro ⟨length, letters, first, last⟩
    obtain ⟨fits, letters⟩ := tested_iff.mpr ⟨length, letters⟩
    refine ⟨?_, fits, letters, first, last⟩
    rintro rfl
    exact absurd length.1 (by decide)

/-- A bucket that fails is reported with the way in which it breaks the rule. -/
theorem bucketName_eq_error_iff :
    bucketName field value = .error error ↔
      ∃ reason, BucketFault value reason ∧ error = .invalid field value reason := by
  simp only [bucketName, check_bind_eq_error_iff, ensure_eq_ok_iff, ensure_eq_error_iff,
    bne_iff_ne, Bool.and_eq_true, decide_eq_true_eq, List.all_eq_true, Bool.or_eq_true,
    beq_iff_eq, isNameChar_iff]
  constructor
  · intro failed
    rcases failed with ⟨nothing, rfl⟩ | ⟨something, failed⟩
    · exact ⟨_, .empty (not_not.mp nothing), rfl⟩
    rcases failed with ⟨off, rfl⟩ | ⟨fits, failed⟩
    · exact ⟨_, .length something off, rfl⟩
    rcases failed with ⟨foreign, rfl⟩ | ⟨letters, border, rfl⟩
    · simp only [not_forall, exists_prop] at foreign
      obtain ⟨letter, member, foreign⟩ := foreign
      exact ⟨_, .letter fits member foreign, rfl⟩
    · exact ⟨_, .hyphen fits letters ((not_and_or.mp border).imp not_not.mp not_not.mp), rfl⟩
  · intro failed
    obtain ⟨_, fault, rfl⟩ := failed
    have nonempty (fits : 3 ≤ value.utf8ByteSize ∧ value.utf8ByteSize ≤ 63) : value ≠ "" := by
      intro nothing
      rw [nothing] at fits
      exact absurd fits.1 (by decide)
    cases fault with
    | empty nothing => exact .inl ⟨not_not.mpr nothing, rfl⟩
    | length something off => exact .inr ⟨something, .inl ⟨off, rfl⟩⟩
    | letter fits member foreign =>
        exact .inr ⟨nonempty fits, .inr ⟨fits, .inl ⟨fun all => foreign (all _ member), rfl⟩⟩⟩
    | hyphen fits letters border =>
        refine .inr ⟨nonempty fits, .inr ⟨fits, .inr ⟨letters, fun bare => ?_, rfl⟩⟩⟩
        exact border.elim bare.1 bare.2

theorem keyPrefix_eq_ok_iff : keyPrefix field value = .ok () ↔ IsKeyPrefix value := by
  simp only [keyPrefix, ensure_eq_ok_iff, Bool.not_eq_true', List.contains_eq_mem,
    decide_eq_false_iff_not, IsKeyPrefix]

theorem keyPrefix_eq_error_iff :
    keyPrefix field value = .error error ↔
      '\x00' ∈ value.toList ∧ error = .invalid field value "Path contains null bytes" := by
  simp only [keyPrefix, ensure_eq_error_iff, Bool.not_eq_true', List.contains_eq_mem,
    decide_eq_false_iff_not, not_not]

theorem path_eq_ok_iff : path field value = .ok () ↔ IsRoot value := by
  rw [path, ensure_bind_eq_ok_iff, keyPrefix_eq_ok_iff, bne_iff_ne, IsRoot, IsKeyPrefix]

theorem path_eq_error_iff :
    path field value = .error error ↔
      ∃ reason, RootFault value reason ∧ error = .invalid field value reason := by
  simp only [path, check_bind_eq_error_iff, ensure_eq_ok_iff, ensure_eq_error_iff, bne_iff_ne,
    not_not, keyPrefix_eq_error_iff]
  constructor
  · intro failed
    rcases failed with ⟨nothing, rfl⟩ | ⟨-, member, rfl⟩
    · exact ⟨_, .empty nothing, rfl⟩
    · exact ⟨_, .null member, rfl⟩
  · intro failed
    obtain ⟨_, fault, rfl⟩ := failed
    cases fault with
    | empty nothing => exact .inl ⟨nothing, rfl⟩
    | null member =>
        refine .inr ⟨fun nothing => ?_, member, rfl⟩
        rw [nothing] at member
        exact absurd member List.not_mem_nil

section Url

variable [UrlReader] (refused : ∀ scheme, UrlReader.scheme "" ≠ .ok scheme)
include refused

/-- A URL that is read is not empty. -/
theorem ne_empty_of_scheme {scheme : String} (read : UrlReader.scheme value = .ok scheme) :
    value ≠ "" := by
  rintro rfl
  exact refused scheme read

/-- An endpoint passes just when the reader of URLs finds a scheme of the web in it. -/
theorem url_eq_ok_iff : url field value = .ok () ↔ IsEndpoint value := by
  rw [url, ensure_bind_eq_ok_iff, bne_iff_ne, IsEndpoint]
  cases read : UrlReader.scheme value with
  | error complaint => exact ⟨nofun, nofun⟩
  | ok scheme =>
      have something := ne_empty_of_scheme refused read
      simp only [ensure_eq_ok_iff, serverSchemes, List.contains_iff_mem, List.mem_cons,
        List.not_mem_nil, or_false, Except.ok.injEq, exists_eq_left', ne_eq, something,
        not_false_eq_true, true_and]

/-- An endpoint that fails is reported with the way in which it breaks the rule. -/
theorem url_eq_error_iff :
    url field value = .error error ↔
      ∃ reason, EndpointFault value reason ∧ error = .invalid field value reason := by
  have listed (scheme : String) : serverSchemes.contains scheme = true ↔
      scheme = "http" ∨ scheme = "https" := by
    simp only [serverSchemes, List.contains_iff_mem, List.mem_cons, List.not_mem_nil, or_false]
  rw [url, check_bind_eq_error_iff, ensure_eq_error_iff, ensure_eq_ok_iff, bne_iff_ne, not_not]
  constructor
  · intro failed
    rcases failed with ⟨nothing, rfl⟩ | ⟨something, failed⟩
    · exact ⟨_, .empty nothing, rfl⟩
    cases read : UrlReader.scheme value with
    | error complaint =>
        rw [read] at failed
        cases failed
        exact ⟨_, .malformed something read, rfl⟩
    | ok scheme =>
        rw [read, ensure_eq_error_iff, listed, not_or] at failed
        exact ⟨_, .foreign read failed.1, failed.2⟩
  · intro failed
    obtain ⟨_, fault, rfl⟩ := failed
    cases fault with
    | empty nothing => exact .inl ⟨nothing, rfl⟩
    | malformed something unread =>
        rw [unread]
        exact .inr ⟨something, rfl⟩
    | foreign read other =>
        rw [read, ensure_eq_error_iff, listed, not_or]
        exact .inr ⟨ne_empty_of_scheme refused read, other, rfl⟩

end Url

theorem region_eq_ok_iff : region field value = .ok () ↔ IsRegion value := by
  simp only [region, nonBlank, ensure_bind_eq_ok_iff, ensure_eq_ok_iff, Text.allBlank,
    Bool.not_eq_true', List.all_eq_false, List.all_eq_true, isNameChar_iff, IsRegion]
  refine and_congr_left fun letters => ?_
  constructor
  · intro seen nothing
    obtain ⟨letter, member, -⟩ := seen
    rw [nothing] at member
    exact absurd member List.not_mem_nil
  · intro something
    obtain ⟨letter, member⟩ :=
      List.exists_mem_of_ne_nil _ (mt String.toList_eq_nil_iff.mp something)
    exact ⟨letter, member, Bool.eq_false_iff.mp (letters letter member).not_isBlank⟩

theorem region_eq_error_iff :
    region field value = .error error ↔
      ∃ reason, RegionFault value reason ∧ error = .invalid field value reason := by
  simp only [region, nonBlank, check_bind_eq_error_iff, ensure_eq_ok_iff, ensure_eq_error_iff,
    Text.allBlank, Bool.not_eq_true', List.all_eq_false, List.all_eq_true, not_exists, not_and,
    not_not, isNameChar_iff]
  constructor
  · intro failed
    rcases failed with ⟨nothing, rfl⟩ | ⟨⟨seen, something, visible⟩, foreign, rfl⟩
    · exact ⟨_, .blank nothing, rfl⟩
    · simp only [not_forall, exists_prop] at foreign
      obtain ⟨letter, member, foreign⟩ := foreign
      exact ⟨_, .letter something (Bool.eq_false_iff.mpr visible) member foreign, rfl⟩
  · intro failed
    obtain ⟨_, fault, rfl⟩ := failed
    cases fault with
    | blank nothing => exact .inl ⟨nothing, rfl⟩
    | letter something visible member foreign =>
        exact .inr ⟨⟨_, something, Bool.eq_false_iff.mp visible⟩,
          fun all => foreign (all _ member), rfl⟩

end Checks

end Validation

open Validation

/-! ## Settings of a server, backends and configurations -/

section Settings

variable [UrlReader]

/-- Every setting of a server keeps its rule. -/
structure S3Settings.Sound (settings : S3Settings) : Prop where
  endpoint : ∀ endpoint, settings.endpoint = some endpoint → IsEndpoint endpoint
  region : IsRegion settings.region
  keys : settings.accessKey.isSome = settings.secretKey.isSome

/-- Every setting of a backend keeps its rule. -/
def Backend.Sound : Backend → Prop
  | .memory => True
  | .directory root => IsRoot root
  | .s3 settings => settings.Sound

/-- Every setting of a configuration keeps its rule. -/
structure StoreConfig.Sound (config : StoreConfig) : Prop where
  bucket : IsBucketName config.bucketName
  folder : IsKeyPrefix config.baseFolder
  backend : config.backend.Sound

/-- The error is about the first setting of a server that breaks its rule. -/
inductive S3Settings.Blamed (settings : S3Settings) : StoreError → Prop
  | endpoint {endpoint reason : String} (stated : settings.endpoint = some endpoint)
      (broken : ¬IsEndpoint endpoint) (fault : EndpointFault endpoint reason) :
      Blamed settings (.invalid "backend.endpoint" endpoint reason)
  | region {reason : String}
      (endpoint : ∀ endpoint, settings.endpoint = some endpoint → IsEndpoint endpoint)
      (broken : ¬IsRegion settings.region) (fault : RegionFault settings.region reason) :
      Blamed settings (.invalid "backend.region" settings.region reason)
  | keys (endpoint : ∀ endpoint, settings.endpoint = some endpoint → IsEndpoint endpoint)
      (region : IsRegion settings.region)
      (broken : settings.accessKey.isSome ≠ settings.secretKey.isSome) :
      Blamed settings (.config "access_key and secret_key must be provided together")

/-- The error is about the first setting of a backend that breaks its rule. -/
inductive Backend.Blamed : Backend → StoreError → Prop
  | root {root reason : String} (broken : ¬IsRoot root) (fault : RootFault root reason) :
      Blamed (.directory root) (.invalid "backend.root" root reason)
  | server {settings : S3Settings} {error : StoreError} (fault : settings.Blamed error) :
      Blamed (.s3 settings) error

/-- The error is about the first setting of a configuration that breaks its rule. -/
inductive StoreConfig.Blamed (config : StoreConfig) : StoreError → Prop
  | bucket {reason : String} (broken : ¬IsBucketName config.bucketName)
      (fault : BucketFault config.bucketName reason) :
      Blamed config (.invalid "bucket_name" config.bucketName reason)
  | folder (bucket : IsBucketName config.bucketName) (broken : ¬IsKeyPrefix config.baseFolder) :
      Blamed config (.invalid "base_folder" config.baseFolder "Path contains null bytes")
  | backend {error : StoreError} (bucket : IsBucketName config.bucketName)
      (folder : IsKeyPrefix config.baseFolder) (fault : config.backend.Blamed error) :
      Blamed config error

end Settings

/-- An outcome that is an error is no acceptance. -/
theorem not_ok_of_error {ε : Type} {outcome : Except ε Unit} {error : ε} {sound : Prop}
    (accepts : outcome = .ok () ↔ sound) (failed : outcome = .error error) : ¬sound := by
  rw [← accepts, failed]
  nofun

section Checks

variable [UrlReader] (refused : ∀ scheme, UrlReader.scheme "" ≠ .ok scheme)
include refused

namespace S3Settings

variable {settings : S3Settings} {error : StoreError}

/-- The check of a server accepts the settings that keep their rules. -/
theorem validate_eq_ok_iff_sound : settings.validate = .ok () ↔ settings.Sound := by
  simp only [validate_eq_ok_iff, url_eq_ok_iff refused, region_eq_ok_iff]
  constructor
  · intro passed
    exact ⟨passed.1, passed.2.1, passed.2.2⟩
  · intro sound
    exact ⟨sound.endpoint, sound.region, sound.keys⟩

/-- The check of the settings as a chain of three checks. -/
theorem validate_eq_error_chain :
    settings.validate = .error error ↔
      (∃ endpoint, settings.endpoint = some endpoint ∧
        Validation.url "backend.endpoint" endpoint = .error error) ∨
      (∀ endpoint, settings.endpoint = some endpoint → IsEndpoint endpoint) ∧
        (Validation.region "backend.region" settings.region = .error error ∨
          IsRegion settings.region ∧
            settings.accessKey.isSome ≠ settings.secretKey.isSome ∧ error = unpairedKeys) := by
  have paired : (if settings.accessKey.isSome != settings.secretKey.isSome
      then .error unpairedKeys else .ok () : Except StoreError Unit) = .error error ↔
        settings.accessKey.isSome ≠ settings.secretKey.isSome ∧ error = unpairedKeys := by
    by_cases same : settings.accessKey.isSome = settings.secretKey.isSome
    · simp only [same, bne_self_eq_false, Bool.false_eq_true, ↓reduceIte, reduceCtorEq, ne_eq,
        not_true_eq_false, false_and]
    · simp only [bne_iff_ne, ne_eq, same, not_false_eq_true, ↓reduceIte, Except.error.injEq,
        true_and]
      exact eq_comm
  cases stated : settings.endpoint with
  | none =>
      simp only [validate, stated, check_bind_eq_error_iff, paired, region_eq_ok_iff, reduceCtorEq,
        false_and, exists_false, false_or, true_and, false_implies, implies_true]
  | some endpoint =>
      simp only [validate, stated, check_bind_eq_error_iff, paired, region_eq_ok_iff,
        url_eq_ok_iff refused, Option.some.injEq, exists_eq_left', forall_eq']

/-- The check of a server reports the first setting that breaks its rule. -/
theorem validate_eq_error_iff : settings.validate = .error error ↔ settings.Blamed error := by
  rw [validate_eq_error_chain refused]
  constructor
  · intro failed
    rcases failed with ⟨endpoint, stated, failed⟩ | ⟨endpoint, failed⟩
    · obtain ⟨reason, fault, rfl⟩ := (url_eq_error_iff refused).mp failed
      exact .endpoint stated (not_ok_of_error (url_eq_ok_iff refused) failed) fault
    rcases failed with failed | ⟨region, broken, rfl⟩
    · obtain ⟨reason, fault, rfl⟩ := region_eq_error_iff.mp failed
      exact .region endpoint (not_ok_of_error region_eq_ok_iff failed) fault
    · exact .keys endpoint region broken
  · intro blamed
    cases blamed with
    | endpoint stated _ fault =>
        exact .inl ⟨_, stated, (url_eq_error_iff refused).mpr ⟨_, fault, rfl⟩⟩
    | region endpoint _ fault =>
        exact .inr ⟨endpoint, .inl (region_eq_error_iff.mpr ⟨_, fault, rfl⟩)⟩
    | keys endpoint region broken => exact .inr ⟨endpoint, .inr ⟨region, broken, rfl⟩⟩

end S3Settings

namespace Backend

variable {backend : Backend} {error : StoreError}

/-- The check of a backend accepts the backends that keep their rules. -/
theorem validate_eq_ok_iff : backend.validate = .ok () ↔ backend.Sound := by
  cases backend with
  | memory => exact ⟨fun _ => trivial, fun _ => rfl⟩
  | directory root => exact path_eq_ok_iff
  | s3 settings => exact S3Settings.validate_eq_ok_iff_sound refused

/-- The check of a backend reports the first setting that breaks its rule. -/
theorem validate_eq_error_iff : backend.validate = .error error ↔ backend.Blamed error := by
  cases backend with
  | memory => exact ⟨nofun, nofun⟩
  | directory root =>
      constructor
      · intro failed
        obtain ⟨reason, fault, rfl⟩ := path_eq_error_iff.mp failed
        exact .root (not_ok_of_error path_eq_ok_iff failed) fault
      · intro blamed
        cases blamed with
        | root _ fault => exact path_eq_error_iff.mpr ⟨_, fault, rfl⟩
  | s3 settings =>
      constructor
      · intro failed
        exact .server ((S3Settings.validate_eq_error_iff refused).mp failed)
      · intro blamed
        cases blamed with
        | server fault => exact (S3Settings.validate_eq_error_iff refused).mpr fault

end Backend

namespace StoreConfig

variable {config : StoreConfig} {error : StoreError}

/-- The check of a configuration accepts the configurations that keep all rules. -/
theorem validate_eq_ok_iff_sound : config.validate = .ok () ↔ config.Sound := by
  rw [validate_eq_ok_iff, bucketName_eq_ok_iff_isBucketName, keyPrefix_eq_ok_iff,
    Backend.validate_eq_ok_iff refused]
  constructor
  · intro passed
    exact ⟨passed.1, passed.2.1, passed.2.2⟩
  · intro sound
    exact ⟨sound.bucket, sound.folder, sound.backend⟩

/-- The check of a configuration reports the first setting that breaks its rule. -/
theorem validate_eq_error_iff : config.validate = .error error ↔ config.Blamed error := by
  rw [validate, check_bind_eq_error_iff, check_bind_eq_error_iff,
    bucketName_eq_ok_iff_isBucketName, keyPrefix_eq_ok_iff]
  constructor
  · intro failed
    rcases failed with failed | ⟨bucket, failed⟩
    · obtain ⟨reason, fault, rfl⟩ := bucketName_eq_error_iff.mp failed
      exact .bucket (not_ok_of_error bucketName_eq_ok_iff_isBucketName failed) fault
    rcases failed with failed | ⟨folder, failed⟩
    · obtain ⟨member, rfl⟩ := keyPrefix_eq_error_iff.mp failed
      exact .folder bucket (not_ok_of_error keyPrefix_eq_ok_iff failed)
    · exact .backend bucket folder ((Backend.validate_eq_error_iff refused).mp failed)
  · intro blamed
    cases blamed with
    | bucket _ fault => exact .inl (bucketName_eq_error_iff.mpr ⟨_, fault, rfl⟩)
    | folder bucket broken =>
        exact .inr ⟨bucket, .inl (keyPrefix_eq_error_iff.mpr ⟨not_not.mp broken, rfl⟩)⟩
    | backend bucket folder fault =>
        exact .inr ⟨bucket, .inr ⟨folder, (Backend.validate_eq_error_iff refused).mpr fault⟩⟩

end StoreConfig

end Checks

namespace StoreConfig

/-- What the check of a configuration accepts, and what it reports. -/
structure Judged [UrlReader] (config : StoreConfig) : Prop where
  accepted : config.validate = .ok () ↔ config.Sound
  blamed : ∀ error, config.validate = .error error ↔ config.Blamed error
  /-- The tests of the bucket keep out whatever is not ASCII and nothing that is spelled right. -/
  tested : Tested config.bucketName ↔ Ascii config.bucketName ∧
    (3 ≤ config.bucketName.length ∧ config.bucketName.length ≤ 63) ∧
      ∀ letter ∈ config.bucketName.toList, IsBucketLetter letter

/-- **The check of a configuration accepts its grammar and blames the first setting out of it**,
for every reader of URLs that refuses the empty text. -/
theorem judged [UrlReader] (refused : ∀ scheme, UrlReader.scheme "" ≠ .ok scheme)
    (config : StoreConfig) : Judged config where
  accepted := validate_eq_ok_iff_sound refused
  blamed _ := validate_eq_error_iff refused
  tested := by
    rw [tested_iff]
    exact (and_iff_right_of_imp fun spelled letter member => (spelled.2 letter member).le).symm

/-- A reader that knows the URL of one server. -/
abbrev serverReader : UrlReader where
  scheme text :=
    if text = "http://minio-service:9000" then .ok "http"
    else .error "relative URL without a base"

/-- A configuration of a store on a server. -/
def onServer (endpoint : String) : StoreConfig where
  bucketName := "mlpipeline"
  backend := .s3 { endpoint := some endpoint }

/-- The endpoint that the reader knows passes, and another one is blamed in the words of the
reader. -/
theorem judged_onServer :
    (∀ scheme, serverReader.scheme "" ≠ .ok scheme) ∧
      (@Judged serverReader (onServer "http://minio-service:9000") ∧
        @validate serverReader (onServer "http://minio-service:9000") = .ok ()) ∧
      @Judged serverReader (onServer "minio-service") ∧
        @validate serverReader (onServer "minio-service") =
          .error (.invalid "backend.endpoint" "minio-service"
            "Invalid URL format: relative URL without a base") := by
  have refused (scheme : String) : serverReader.scheme "" ≠ .ok scheme := nofun
  exact ⟨refused, ⟨@judged serverReader refused _, by decide⟩, @judged serverReader refused _,
    by decide⟩

end StoreConfig

end PipelineDepot
