import PipelineDepot.Proofs.Files.Ancestors
import PipelineDepot.Proofs.Files.Walk

/-! # What a path asks for

A path whose text a file system accepts (`Path.Fits`) and which ends in a name asks for an entry
of a directory. What it asks for depends on where it starts and on its names alone
(`FileSystem.goal_eq`), so two spellings with the same names open the same
(`FileSystem.openPath_congr`). Conversely, whatever asks for an entry has walked through
directories to the place that the names lead to (`FileSystem.asks_of_goal`).
-/

namespace PipelineDepot.Files

/-- A file system accepts the text of a path. -/
structure Path.Fits (path : String) : Prop where
  nulFree : '\x00' ∉ path.toList
  short : path.utf8ByteSize < FileSystem.pathLimit

/-- The text in front of an accepted path is accepted. -/
theorem Path.Fits.front {front back : String} (fits : Path.Fits (front ++ back)) :
    Path.Fits front where
  nulFree inside := fits.nulFree (String.toList_append ▸ List.mem_append_left back.toList inside)
  short := by
    have whole := fits.short
    rw [String.utf8ByteSize_append] at whole
    omega

namespace FileSystem

open Walk

variable (system : FileSystem)

/-- The place a path leads to. -/
def target (path : String) : Place := (system.origin path).follow (Path.names path)

/-- A path leads through a place, or ends there. -/
def OnWay (path : String) (place : Place) : Prop :=
  ∃ front, front <+: Path.names path ∧ place = (system.origin path).follow front

theorem onWay_target (path : String) : system.OnWay path (system.target path) :=
  ⟨Path.names path, List.prefix_rfl, rfl⟩

/-- The path asks for the entry `name` of the directory that the names `front` lead to. -/
structure Asks (path : String) (front : List String) (name : String) : Prop where
  names_eq : Path.names path = front ++ [name]
  current : name ≠ "."
  parent : name ≠ ".."
  travelled : travel system.top (system.origin path) front =
    .ok ((system.origin path).follow front)
  fits : Path.Fits path
  ends : (walkPieces path).getLast? = some name

variable {system}

/-- A path whose last name goes down leads below where the other names lead. -/
theorem target_eq_of_names {path last : String} {front : List String}
    (parted : Path.names path = front ++ [last]) (inward : last ≠ "..") :
    system.target path = (system.origin path).follow front ++ [last] := by
  have means := Path.means_of_mem_names (parted ▸ List.mem_append_right _ List.mem_cons_self)
  rw [target, parted, Place.follow_append]
  exact Place.step_name _ means.2 inward

/-- Walking moves along the names of a path. -/
theorem meaningful_walkPieces (path : String) : meaningful (walkPieces path) = Path.names path := by
  rw [meaningful, walkPieces, List.filter_filter, Path.names]
  apply List.filter_congr
  intro piece _
  rw [Bool.eq_iff_iff]
  simp only [ne_eq, Bool.and_eq_true, decide_eq_true_eq]
  exact And.comm

theorem contains_nul_eq_false {path : String} (nulFree : '\x00' ∉ path.toList) :
    path.toList.contains '\x00' = false := by
  rw [List.contains_eq_mem]
  exact decide_eq_false nulFree

/-- A null byte is refused before anything is looked at. -/
theorem goal_of_nul {path : String} (inside : '\x00' ∈ path.toList) :
    system.goal path = .error .nulInPath := by
  simp only [goal, List.contains_iff_mem.mpr inside, ↓reduceIte]

/-- A text that is too long is refused before anything is looked at. -/
theorem goal_of_long {path : String} (nulFree : '\x00' ∉ path.toList)
    (long : pathLimit ≤ path.utf8ByteSize) : system.goal path = .error .nameTooLong := by
  have some_ : path ≠ "" := by
    rintro rfl
    exact absurd long (by decide)
  simp only [goal, contains_nul_eq_false nulFree, Bool.false_eq_true, some_, long, ↓reduceIte]

/-- An accepted path is walked piece by piece. -/
theorem goal_eq_walk {path : String} (fits : Path.Fits path) (some_ : path ≠ "") :
    system.goal path = walk system.top (system.origin path) (walkPieces path) := by
  simp only [goal, contains_nul_eq_false fits.nulFree, Bool.false_eq_true, some_,
    Nat.not_le.mpr fits.short, ↓reduceIte]
  rfl

/-- A path that asks for anything has a text that is accepted, and is not empty. -/
theorem fits_of_goal {path : String} {goal : Goal} (found : system.goal path = .ok goal) :
    Path.Fits path ∧ path ≠ "" := by
  unfold FileSystem.goal at found
  split at found
  next => cases found
  next clean =>
    split at found
    next => cases found
    next some_ =>
      split at found
      next => cases found
      next short =>
        refine ⟨⟨?_, Nat.not_le.mp short⟩, some_⟩
        intro inside
        exact clean (List.contains_iff_mem.mpr inside)

theorem ne_empty_of_endsInName {path : String} (ends : Path.EndsInName path) : path ≠ "" := by
  rintro rfl
  obtain ⟨last, found, means⟩ := ends
  rw [Path.pieces_empty] at found
  exact means.1 (Option.some.inj found).symm

theorem getLast?_walkPieces {path last : String} {before : List String}
    (split : Path.pieces path = before ++ [last]) (some_ : last ≠ "") :
    (walkPieces path).getLast? = some last := by
  have kept : [last].filter (· ≠ "") = [last] :=
    List.filter_eq_self.mpr (List.forall_mem_singleton.mpr (decide_eq_true some_))
  rw [walkPieces, split, List.filter_append, kept, List.getLast?_concat]

/-- What a path that ends in a name asks for depends on where it starts and on its names. -/
theorem goal_eq {path : String} (fits : Path.Fits path) (ends : Path.EndsInName path) :
    system.goal path = walk system.top (system.origin path) (Path.names path) := by
  obtain ⟨front, last, split, means, -⟩ := ends.split
  rw [goal_eq_walk fits (ne_empty_of_endsInName ends), ← meaningful_walkPieces]
  exact walk_filter _ (getLast?_walkPieces split means.1) means.2

/-- A path that asks for an entry has walked through directories up to the last name. -/
theorem asks_of_goal (sound : system.Sound) {path : String} {parent : Place} {name : String}
    (found : system.goal path = .ok (.entry parent name)) :
    ∃ front, parent = (system.origin path).follow front ∧ system.Asks path front name := by
  obtain ⟨fits, some_⟩ := fits_of_goal found
  rw [goal_eq_walk fits some_] at found
  rcases List.eq_nil_or_concat (walkPieces path) with nothing | ⟨before, last, split⟩
  · rw [nothing] at found
    cases found
  · rw [List.concat_eq_append] at split
    rw [split, walk_concat] at found
    cases travelled : travel system.top (system.origin path) before with
    | error cause => cases travelled ▸ found
    | ok place =>
        rw [travelled, Except.map, Except.ok.injEq, aim] at found
        split at found
        next => cases found
        next current =>
          split at found
          next => cases found
          next above =>
            cases found
            obtain ⟨arrived, -⟩ := eq_of_travel (sound.look_origin path) travelled
            have kept : Path.names path = meaningful before ++ [name] := by
              rw [← meaningful_walkPieces, split, meaningful_concat before current]
            refine ⟨meaningful before, arrived.trans (Place.follow_meaningful _ _).symm, ?_⟩
            exact {
              names_eq := kept
              current := current
              parent := above
              travelled := by
                rw [travel_filter, Place.follow_meaningful, travelled, arrived]
              fits := fits
              ends := by rw [split, List.getLast?_concat] }

namespace Asks

variable {path name : String} {front : List String} (asks : system.Asks path front name)
include asks

theorem target_eq : system.target path = (system.origin path).follow front ++ [name] :=
  target_eq_of_names asks.names_eq asks.parent

theorem passed (sound : system.Sound) {lead : List String} (leading : lead <+: front) :
    system.look ((system.origin path).follow lead) = some .directory :=
  (eq_of_travel (sound.look_origin path) asks.travelled).2 lead leading

/-- A path asks for no more than the walk through its names. -/
theorem goal_eq : system.goal path = .ok (.entry ((system.origin path).follow front) name) := by
  have some_ : path ≠ "" := by
    rintro rfl
    cases asks.ends
  obtain ⟨before, split⟩ := List.getLast?_eq_some_iff.mp asks.ends
  have whole := asks.names_eq
  rw [← meaningful_walkPieces, split, meaningful_concat before asks.current] at whole
  obtain ⟨same, -⟩ := List.append_inj' whole rfl
  rw [goal_eq_walk asks.fits some_, split, walk_concat, ← travel_filter, same, asks.travelled]
  simp only [Except.map, aim, asks.current, asks.parent, ↓reduceIte]

/-- A path that asks for an entry without a slash behind it ends in a name. -/
theorem endsInName (bare : endsInSlash path = false) : Path.EndsInName path := by
  obtain ⟨before, last, split⟩ :=
    (List.eq_nil_or_concat (Path.pieces path)).resolve_left (Path.pieces_ne_nil path)
  rw [List.concat_eq_append] at split
  have some_ : last ≠ "" := by
    rintro rfl
    cases before with
    | nil =>
        have nothing := asks.ends
        rw [walkPieces, split] at nothing
        cases nothing
    | cons piece rest =>
        have slash := Path.slash_of_pieces (List.cons_ne_nil piece rest) split
        rw [endsInSlash, slash] at bare
        cases bare
  obtain rfl := Option.some.inj ((getLast?_walkPieces split some_).symm.trans asks.ends)
  exact ⟨last, split ▸ List.getLast?_concat, some_, asks.current⟩

end Asks

end FileSystem

end PipelineDepot.Files
