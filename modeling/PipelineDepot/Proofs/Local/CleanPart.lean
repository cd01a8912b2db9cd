import PipelineDepot.Proofs.BucketName
import PipelineDepot.Proofs.Local.Refinement

/-! # Buckets and keys in clean form

A bucket or key in clean form is its names with slashes between them, so the path of an object
has exactly the names of the root, of the bucket and of the key. A text that passes for a bucket
is always in clean form (`Local.CleanPart.of_bucketName`).
-/

namespace PipelineDepot.Blob.Local

open Files FileSystem

/-- A bucket or key in clean form, whose segments the file system accepts. -/
structure CleanPart (text : String) : Prop where
  some_ : text ≠ ""
  moves : text ≠ "."
  relative : Path.isAbsolute text = false
  cleaned : KeyPath.clean text = text
  inward : ".." ∉ Path.pieces text
  nulFree : '\x00' ∉ text.toList
  short : ∀ segment ∈ Path.pieces text, segment.utf8ByteSize ≤ maxName

variable {depot : Local} {bucket key : String}

namespace CleanPart

theorem plain {text : String} (clean : CleanPart text) : Path.Plain text :=
  ⟨clean.relative, clean.inward⟩

/-- The segments of a text in clean form are its names, and there are some. -/
theorem names_eq {text : String} (clean : CleanPart text) :
    Path.names text ≠ [] ∧ Path.pieces text = Path.names text :=
  KeyPath.pieces_of_clean clean.plain clean.cleaned clean.moves

/-- A bucket that passes its check is one clean part of a path. -/
theorem of_bucketName {field : String} (passed : Validation.bucketName field bucket = .ok ()) :
    CleanPart bucket ∧ Path.pieces bucket = [bucket] := by
  obtain ⟨plain, named, short⟩ := Validation.names_of_bucketName passed
  have bare : Path.Bare bucket := Validation.not_mem_of_bucketName passed (by decide) (by decide)
  have parts : Path.pieces bucket = [bucket] := Path.pieces_of_bare bare
  have means : Path.Means bucket :=
    Path.means_of_mem_names (named ▸ List.mem_singleton_self bucket)
  have spelled : KeyPath.clean bucket = bucket := by
    rw [KeyPath.clean_eq plain, named, if_neg (List.cons_ne_nil bucket [])]
    rfl
  refine ⟨?_, parts⟩
  exact {
    some_ := means.1
    moves := means.2
    relative := plain.relative
    cleaned := spelled
    inward := plain.inward
    nulFree := Validation.not_mem_of_bucketName passed (by decide) (by decide)
    short := by
      intro segment member
      rw [parts, List.mem_singleton] at member
      subst member
      exact Nat.le_trans short (by decide) }

variable (cleanBucket : CleanPart bucket) (cleanKey : CleanPart key)
include cleanBucket cleanKey

/-- Clean parts are accepted as the path of an object. -/
theorem located : depot.objectPath bucket key = .ok (depot.path bucket key) := by
  have acceptedBucket := (keyFault?_eq_none_iff bucket).mpr ⟨cleanBucket.some_, cleanBucket.plain⟩
  have acceptedKey := (keyFault?_eq_none_iff key).mpr ⟨cleanKey.some_, cleanKey.plain⟩
  exact objectPath_eq_ok_iff.mpr ⟨⟨acceptedBucket, acceptedKey⟩, rfl⟩

theorem locates : depot.Locates bucket key (depot.path bucket key) :=
  locates_of_objectPath (cleanBucket.located cleanKey)

theorem inner_eq : inner bucket key = Path.pieces bucket ++ Path.pieces key := by
  rw [inner, Path.names_append_slash, cleanBucket.names_eq.2, cleanKey.names_eq.2]

theorem path_names :
    Path.names (depot.path bucket key) =
      Path.names depot.root ++ (Path.pieces bucket ++ Path.pieces key) := by
  rw [(cleanBucket.locates cleanKey).names_eq, cleanBucket.inner_eq cleanKey]

/-- An object stands below the root, in its bucket. -/
theorem target_eq (system : FileSystem) :
    system.target (depot.path bucket key) =
      system.target depot.root ++ (Path.pieces bucket ++ Path.pieces key) := by
  rw [(cleanBucket.locates cleanKey).target_eq, cleanBucket.inner_eq cleanKey]

theorem path_nulFree (rootFree : '\x00' ∉ depot.root.toList) :
    '\x00' ∉ (depot.path bucket key).toList := by
  have within {text name : String} (inside : '\x00' ∈ name.toList) (clean : CleanPart text)
      (member : name ∈ Path.pieces text) : '\x00' ∈ text.toList := by
    rw [clean.names_eq.2] at member
    exact (Path.mem_toList_iff (by decide) (by decide) text).mpr ⟨name, member, inside⟩
  rw [Path.mem_toList_iff (by decide) (by decide), cleanBucket.path_names cleanKey]
  intro held
  obtain ⟨name, member, inside⟩ := held
  rcases List.mem_append.mp member with above | below
  · exact rootFree ((Path.mem_toList_iff (by decide) (by decide) _).mpr ⟨name, above, inside⟩)
  · rcases List.mem_append.mp below with first | second
    · exact cleanBucket.nulFree (within inside cleanBucket first)
    · exact cleanKey.nulFree (within inside cleanKey second)

theorem path_short (rootShort : ∀ name ∈ Path.names depot.root, Walk.Short name) :
    ∀ name ∈ Path.names (depot.path bucket key), Walk.Short name := by
  intro name member
  rw [cleanBucket.path_names cleanKey] at member
  rcases List.mem_append.mp member with above | below
  · exact rootShort name above
  · rcases List.mem_append.mp below with first | second
    · exact cleanBucket.short name first
    · exact cleanKey.short name second

theorem path_descends : ∃ front name, Descends (depot.path bucket key) front name := by
  obtain ⟨named, parts⟩ := cleanKey.names_eq
  obtain ⟨front, last, split⟩ := (List.eq_nil_or_concat (Path.names key)).resolve_left named
  rw [List.concat_eq_append] at split
  have member : last ∈ Path.names key := split ▸ List.mem_append_right _ List.mem_cons_self
  refine ⟨Path.names depot.root ++ (Path.pieces bucket ++ front), last, ?_,
    cleanKey.plain.ne_parent member, ?_⟩
  · rw [cleanBucket.path_names cleanKey, parts, split, List.append_assoc, List.append_assoc]
  · apply (cleanBucket.locates cleanKey).endsInName_iff.mpr
    refine ⟨last, ?_, Path.means_of_mem_names member⟩
    rw [parts, split, List.getLast?_concat]

/-- A place on the way to an object is on the way to the root or in the root. -/
theorem onWay_cases {lead : List String}
    (leading : lead <+: Path.names (depot.path bucket key)) :
    lead <+: Path.names depot.root ∨
      ∃ within, lead = Path.names depot.root ++ within ∧
        within <+: Path.pieces bucket ++ Path.pieces key := by
  rw [cleanBucket.path_names cleanKey] at leading
  rcases List.prefix_or_prefix_of_prefix leading (List.prefix_append _ _) with above | below
  · exact Or.inl above
  · obtain ⟨within, rfl⟩ := below
    exact Or.inr ⟨within, rfl, (List.prefix_append_right_inj _).mp leading⟩

theorem origin_eq (system : FileSystem) :
    system.origin (depot.path bucket key) = system.origin depot.root :=
  (cleanBucket.locates cleanKey).origin_eq system

theorem follow_within (system : FileSystem) {within : List String}
    (leading : within <+: Path.pieces bucket ++ Path.pieces key) :
    (system.origin (depot.path bucket key)).follow (Path.names depot.root ++ within) =
      system.target depot.root ++ within := by
  have located : depot.Locates bucket key _ := cleanBucket.locates cleanKey
  rw [Place.follow_append, cleanBucket.origin_eq cleanKey system]
  exact located.follow_inner _ (cleanBucket.inner_eq cleanKey ▸ leading)

end CleanPart

end PipelineDepot.Blob.Local
