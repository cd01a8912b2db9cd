import PipelineDepot.KeyPath
import PipelineDepot.Proofs.Files.Names

/-! # Clean spellings of plain paths

A path is plain when it does not start at the root and holds no `..`. Cleaning a plain path
leaves its names with slashes between them (`KeyPath.clean_eq`), so two plain paths have the same
clean spelling exactly when they have the same names (`KeyPath.clean_eq_clean_iff`).
-/

namespace PipelineDepot

open Files

/-- The path does not start at the root and never goes to a parent. -/
structure Files.Path.Plain (path : String) : Prop where
  relative : Path.isAbsolute path = false
  inward : ".." ∉ Path.pieces path

namespace Files.Path

/-- A path with a plain path behind a slash is plain again. -/
theorem Plain.append_slash {front back : String} (some_ : front ≠ "") (first : Plain front)
    (second : Plain back) : Plain (front ++ "/" ++ back) where
  relative := by
    rw [String.append_assoc, isAbsolute_append some_]
    exact first.relative
  inward inside := by
    rw [pieces_append_slash, List.mem_append] at inside
    exact inside.elim first.inward second.inward

theorem names_append_slash (front back : String) :
    names (front ++ "/" ++ back) = names front ++ names back := by
  rw [names, pieces_append_slash, List.filter_append]
  rfl

theorem bare_of_mem_names {path name : String} (member : name ∈ names path) : Bare name :=
  bare_of_mem_pieces (List.mem_of_mem_filter member)

theorem Plain.ne_parent {path name : String} (plain : Plain path) (member : name ∈ names path) :
    name ≠ ".." := by
  rintro rfl
  exact plain.inward (List.mem_of_mem_filter member)

/-- Names with slashes between them spell out the names. -/
theorem pieces_intercalate_names {path : String} (some_ : names path ≠ []) :
    pieces ("/".intercalate (names path)) = names path :=
  pieces_intercalate (fun _ member => bare_of_mem_names member) some_

end Files.Path

namespace KeyPath

/-- Pushing segments that never go to a parent keeps those that mean a step. -/
theorem foldl_push (rooted : Bool) (segments kept : List Segment) (inward : up ∉ segments) :
    segments.foldl (push rooted) kept =
      (segments.filter fun segment => segment ≠ [] ∧ segment ≠ here).reverse ++ kept := by
  induction segments generalizing kept with
  | nil => rfl
  | cons segment rest ih =>
      have moves : segment ≠ up := fun same => inward (same ▸ List.mem_cons_self)
      have onward : up ∉ rest := fun member => inward (List.mem_cons_of_mem _ member)
      have pushed : push rooted kept segment =
          if segment = [] ∨ segment = here then kept else segment :: kept := by
        unfold push
        simp only [moves, ↓reduceIte]
      rw [List.foldl_cons, ih _ onward, pushed]
      by_cases silent : segment = [] ∨ segment = here
      · have dropped : ¬ (segment ≠ [] ∧ segment ≠ here) := by
          rintro ⟨some_, moving⟩
          exact silent.elim some_ moving
        simp only [silent, ↓reduceIte, List.filter_cons, dropped, decide_false, Bool.false_eq_true]
      · have meant : segment ≠ [] ∧ segment ≠ here := not_or.mp silent
        simp only [↓reduceIte, List.filter_cons, meant, ne_eq, not_false_eq_true, and_self, or_self,
          decide_true, List.reverse_cons, List.append_assoc, List.singleton_append]

/-- The segments that cleaning works on are the pieces between the slashes. -/
theorem segments_toList (path : String) :
    segments path.toList = (Path.pieces path).map String.toList :=
  (Path.map_toList_pieces path).symm

/-- Pushing the segments of a plain path adds its names. -/
theorem foldl_push_toList (rooted : Bool) (kept : List Segment) {path : String}
    (plain : Path.Plain path) :
    (segments path.toList).foldl (push rooted) kept =
      ((Path.names path).map String.toList).reverse ++ kept := by
  have inward : up ∉ segments path.toList := by
    rw [segments_toList]
    intro inside
    obtain ⟨piece, member, same⟩ := List.mem_map.mp inside
    obtain rfl : piece = ".." := String.toList_inj.mp same
    exact plain.inward member
  rw [foldl_push _ _ _ inward, segments_toList, List.filter_map, Path.names]
  apply congrArg (fun names => (List.map String.toList names).reverse ++ kept)
  apply List.filter_congr
  intro piece _
  have dot : piece.toList = here ↔ piece = "." := by
    rw [← String.toList_inj]
    rfl
  have same : (piece.toList ≠ [] ∧ piece.toList ≠ here) ↔ Path.Means piece :=
    and_congr String.toList_eq_nil_iff.not dot.not
  simp only [Function.comp_apply, same]

/-- A plain path keeps its names. -/
theorem keptSegments_toList {path : String} (plain : Path.Plain path) :
    keptSegments path.toList = (Path.names path).map String.toList := by
  rw [keptSegments, foldl_push_toList _ _ plain, List.append_nil, List.reverse_reverse]

/-- Cleaning a plain path leaves its names with slashes between them. -/
theorem clean_eq {path : String} (plain : Path.Plain path) :
    clean path = if Path.names path = [] then "." else "/".intercalate (Path.names path) := by
  have rooted : isRooted path.toList = false := plain.relative
  simp only [clean, cleanChars, render, rooted, keptSegments_toList plain, Bool.false_eq_true,
    ↓reduceIte, List.map_eq_nil_iff]
  split
  next => rfl
  next =>
    apply String.toList_inj.mp
    rw [String.toList_ofList, String.toList_intercalate]
    rfl

/-- **Two plain paths have the same clean spelling exactly when they have the same names.** -/
theorem clean_eq_clean_iff {first second : String} (plainFirst : Path.Plain first)
    (plainSecond : Path.Plain second) :
    clean first = clean second ↔ Path.names first = Path.names second := by
  have spelled (path other : String) (some_ : Path.names path ≠ [])
      (same : "/".intercalate (Path.names path) = other) : Path.pieces other = Path.names path :=
    same ▸ Path.pieces_intercalate_names some_
  -- The dot that stands for no names at all is no name itself.
  have dot (path : String) (some_ : Path.names path ≠ []) :
      "/".intercalate (Path.names path) ≠ "." := by
    intro same
    have parts := spelled path "." some_ same
    have member : "." ∈ Path.names path := parts ▸ List.mem_singleton_self "."
    exact (Path.means_of_mem_names member).2 rfl
  rw [clean_eq plainFirst, clean_eq plainSecond]
  constructor
  · intro same
    split at same
    next nothing =>
      split at same
      next none_ => rw [nothing, none_]
      next some_ => exact (dot second some_ same.symm).elim
    next some_ =>
      split at same
      next => exact (dot first some_ same).elim
      next left =>
        exact (spelled first _ some_ same).symm.trans (Path.pieces_intercalate_names left)
  · intro same
    rw [same]

/-- A path in clean form that is not a lone dot is its names with slashes between them. -/
theorem pieces_of_clean {path : String} (plain : Path.Plain path) (cleaned : clean path = path)
    (moves : path ≠ ".") : Path.names path ≠ [] ∧ Path.pieces path = Path.names path := by
  have text := clean_eq plain
  rw [cleaned] at text
  split at text
  next => exact (moves text).elim
  next some_ =>
    have parts := Path.pieces_intercalate_names some_
    rw [← text] at parts
    exact ⟨some_, parts⟩

end KeyPath

end PipelineDepot
