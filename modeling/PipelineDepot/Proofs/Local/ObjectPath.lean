import PipelineDepot.Blob.Local
import PipelineDepot.Proofs.CleanPath
import PipelineDepot.Proofs.Files.Goal

/-! # The path of an object

A bucket and a key are accepted when both are plain paths and not empty
(`keyFault?_eq_none_iff`). The path of the object then starts where the root of the depot starts
and has the names of the root in front of those of bucket and key (`Local.Locates`), so it leads
to a place below the root, and two accepted pairs share their place exactly when
`bucket/key` has the same clean spelling (`Local.Locates.target_eq_iff`).
-/

namespace PipelineDepot.Blob

open Files

theorem componentFault?_eq_none_iff (component : Path.Component) :
    componentFault? component = none ↔ component ≠ .root ∧ component ≠ .parent := by
  cases component <;> simp [componentFault?]

theorem laterComponent?_eq_some_parent_iff (piece : String) :
    Path.laterComponent? piece = some .parent ↔ piece = ".." := by
  unfold Path.laterComponent?
  split
  next silent =>
    have different : piece ≠ ".." := by
      rintro rfl
      exact absurd silent (by decide)
    simp only [reduceCtorEq, different]
  next =>
    split
    next same => simp only [same]
    next different => simp only [Option.some.injEq, reduceCtorEq, different]

theorem laterComponent?_ne_some_root (piece : String) :
    Path.laterComponent? piece ≠ some .root := by
  unfold Path.laterComponent?
  split
  next => rintro ⟨⟩
  next => split <;> rintro ⟨⟩

/-- The components behind the first place have no fault unless one of them is `..`. -/
theorem findSome?_laterComponents_eq_none_iff (pieces : List String) :
    (pieces.filterMap Path.laterComponent?).findSome? componentFault? = none ↔ ".." ∉ pieces := by
  rw [List.findSome?_eq_none_iff]
  constructor
  · intro faultless member
    have meant := (laterComponent?_eq_some_parent_iff "..").mpr rfl
    cases faultless .parent (List.mem_filterMap.mpr ⟨"..", member, meant⟩)
  · intro inward component member
    obtain ⟨piece, inside, meant⟩ := List.mem_filterMap.mp member
    refine (componentFault?_eq_none_iff component).mpr ⟨?_, ?_⟩
    · rintro rfl
      exact laterComponent?_ne_some_root piece meant
    · rintro rfl
      exact inward ((laterComponent?_eq_some_parent_iff piece).mp meant ▸ inside)

/-- **A key is accepted when it is a plain path and not empty.** -/
theorem keyFault?_eq_none_iff (key : String) :
    keyFault? key = none ↔ key ≠ "" ∧ Path.Plain key := by
  by_cases empty : key = ""
  · simp only [keyFault?, empty, ↓reduceIte, reduceCtorEq, ne_eq, not_true_eq_false, false_and]
  obtain ⟨first, rest, split⟩ := List.exists_cons_of_ne_nil (Path.pieces_ne_nil key)
  simp only [keyFault?, empty, ↓reduceIte, Path.components, split, ne_eq, not_false_eq_true,
    true_and]
  cases rooted : Path.isAbsolute key with
  | true =>
      simp only [↓reduceIte, List.cons_append, List.findSome?_cons, componentFault?, reduceCtorEq,
        false_iff]
      intro plain
      cases rooted.symm.trans plain.relative
  | false =>
      have plain_iff : Path.Plain key ↔ ".." ∉ first :: rest :=
        ⟨fun plain => split ▸ plain.inward, fun inward => ⟨rooted, split ▸ inward⟩⟩
      rw [plain_iff]
      simp only [Bool.false_eq_true, ↓reduceIte]
      split
      next current =>
        have skipped : ".." ∉ first :: rest ↔ ".." ∉ rest := by
          rw [current, List.mem_cons]
          simp only [String.reduceEq, false_or]
        rw [skipped, ← findSome?_laterComponents_eq_none_iff]
        rfl
      next =>
        have joined : (Path.laterComponent? first).toList ++ rest.filterMap Path.laterComponent? =
            (first :: rest).filterMap Path.laterComponent? := by
          rw [List.filterMap_cons]
          cases Path.laterComponent? first <;> rfl
        rw [joined, findSome?_laterComponents_eq_none_iff]

namespace Local

variable {depot : Local} {bucket key path : String}

/-- A key is accepted when neither it nor its bucket has a fault, and leads below the root then. -/
theorem objectPath_eq_ok_iff :
    depot.objectPath bucket key = .ok path ↔
      (keyFault? bucket = none ∧ keyFault? key = none) ∧
        path = Path.join (Path.join depot.root bucket) key := by
  unfold objectPath
  cases keyFault? bucket with
  | some fault => simp only [reduceCtorEq, false_and]
  | none =>
      cases keyFault? key with
      | some fault => simp only [reduceCtorEq, and_false, false_and]
      | none => simp only [Except.ok.injEq, and_self, true_and, eq_comm]

/-- The path an object is addressed by, in clean form. -/
def address (bucket key : String) : String := KeyPath.clean (bucket ++ "/" ++ key)

/-- The names of an object below the root. -/
def inner (bucket key : String) : List String := Path.names (bucket ++ "/" ++ key)

/-- Where the path of an object leads, seen from the root of the depot. -/
structure Locates (depot : Local) (bucket key path : String) : Prop where
  plain : Path.Plain (bucket ++ "/" ++ key)
  names_eq : Path.names path = Path.names depot.root ++ inner bucket key
  isAbsolute_eq : Path.isAbsolute path = Path.isAbsolute depot.root
  ends_eq : (Path.pieces path).getLast? = (Path.pieces key).getLast?

/-- An accepted pair has a path below the root. -/
theorem locates_of_objectPath (located : depot.objectPath bucket key = .ok path) :
    depot.Locates bucket key path := by
  obtain ⟨⟨acceptedBucket, acceptedKey⟩, rfl⟩ := objectPath_eq_ok_iff.mp located
  obtain ⟨some_, plainBucket⟩ := (keyFault?_eq_none_iff bucket).mp acceptedBucket
  obtain ⟨-, plainKey⟩ := (keyFault?_eq_none_iff key).mp acceptedKey
  exact {
    plain := plainBucket.append_slash some_ plainKey
    names_eq := by
      rw [Path.names_join _ plainKey.relative, Path.names_join _ plainBucket.relative, inner,
        Path.names_append_slash, List.append_assoc]
    isAbsolute_eq := by
      rw [Path.isAbsolute_join _ plainKey.relative, Path.isAbsolute_join _ plainBucket.relative]
    ends_eq := Path.getLast?_pieces_join _ plainKey.relative }

namespace Locates

variable (located : depot.Locates bucket key path) (system : FileSystem)
include located

theorem endsInName_iff : Path.EndsInName path ↔ Path.EndsInName key := by
  simp only [Path.EndsInName, located.ends_eq]

theorem origin_eq : system.origin path = system.origin depot.root := by
  simp only [FileSystem.origin, located.isAbsolute_eq]

/-- The names of the object lead down from the root. -/
theorem follow_inner (place : Place) {front : List String} (leading : front <+: inner bucket key) :
    place.follow front = place ++ front := by
  apply Place.follow_names place
  intro name member
  have inside := leading.subset member
  exact ⟨(Path.means_of_mem_names inside).2, located.plain.ne_parent inside⟩

/-- An object stands below the root, at the names of its bucket and key. -/
theorem target_eq : system.target path = system.target depot.root ++ inner bucket key := by
  rw [FileSystem.target, located.names_eq, Place.follow_append, located.origin_eq system,
    located.follow_inner _ List.prefix_rfl]
  rfl

/-- **Two objects share their place exactly when they share their address.** -/
theorem target_eq_iff {otherBucket otherKey otherPath : String}
    (other : depot.Locates otherBucket otherKey otherPath) :
    system.target path = system.target otherPath ↔
      address bucket key = address otherBucket otherKey := by
  rw [located.target_eq, other.target_eq, List.append_cancel_left_eq, address, address,
    KeyPath.clean_eq_clean_iff located.plain other.plain]
  rfl

omit system in
/-- Two objects with the same address have paths with the same names. -/
theorem names_eq_of_address {otherBucket otherKey otherPath : String}
    (other : depot.Locates otherBucket otherKey otherPath)
    (same : address otherBucket otherKey = address bucket key) :
    Path.names otherPath = Path.names path := by
  rw [other.names_eq, located.names_eq]
  exact congrArg _ ((KeyPath.clean_eq_clean_iff other.plain located.plain).mp same)

end Locates

end Local

end PipelineDepot.Blob
