import Mathlib.Data.String.Basic
import PipelineDepot.Proofs.Files.Walk
import PipelineDepot.Proofs.KeyPath.Shape

/-! # Cleaning decides where paths lead

A path walks through directories: an empty segment and a dot stay, `..` goes to the parent and a
name goes down. Its shape says where the walk ends: at the names of the shape, behind what is
left of the starting directory when the parents are gone up (`Shape.follow_names`). Two paths
therefore have the same clean spelling exactly when they end alike from the root, or from every
directory that is deep enough (`clean_eq_clean_iff_leadAlike`).

The texts of shapes are the normal forms (`normal_iff`), and these are what cleaning leaves as
it is (`clean_eq_self_iff`). So the clean spelling is the one normal form among all paths that
lead alike (`canonical`). It is spelled with characters of the path, so it is never longer
(`cleanChars_sublist`).
-/

namespace PipelineDepot.KeyPath

open Files

/-! ## Walks -/

namespace Shape

variable {shape : Shape} {start : Place}

/-- A directory that paths of the shape can set out from: the root, or one that is deep enough. -/
structure SetsOut (shape : Shape) (start : Place) : Prop where
  atRoot : shape.rooted = true → start = []
  deep : shape.climbs ≤ start.length

/-- Where the shape leads from a directory. -/
def land (shape : Shape) (start : Place) : Place :=
  start.take (start.length - shape.climbs) ++ shape.names

theorem climbs_le_enter (shape : Shape) (piece : String) :
    shape.climbs ≤ (shape.enter piece).climbs := by
  unfold enter
  split
  · rw [leave_climbs]
    split
    · exact Nat.le_succ _
    · exact Nat.le_refl _
  · split <;> exact Nat.le_refl _

/-- No piece takes back a step up. -/
theorem climbs_le_foldl_enter (shape : Shape) (parts : List String) :
    shape.climbs ≤ (parts.foldl enter shape).climbs := by
  induction parts generalizing shape with
  | nil => exact Nat.le_refl _
  | cons piece rest ih => exact Nat.le_trans (shape.climbs_le_enter piece) (ih _)

/-- Going to the parent of where a shape leads is where leaving it leads. -/
theorem land_leave (sets : shape.leave.SetsOut start) :
    (shape.land start).step ".." = shape.leave.land start := by
  change (shape.land start).dropLast = _
  rcases List.eq_nil_or_concat shape.names with none_ | ⟨front, last, split⟩
  · rw [land, land, leave_names, none_, List.dropLast_nil, List.append_nil, List.append_nil]
    cases rooted : shape.rooted with
    | true =>
        rw [sets.atRoot rooted, List.take_nil, List.take_nil, List.dropLast_nil]
    | false =>
        have climbs : shape.leave.climbs = shape.climbs + 1 := if_pos ⟨none_, rooted⟩
        have deep := sets.deep
        rw [climbs] at deep ⊢
        rw [List.dropLast_eq_take, List.length_take, List.take_take]
        congr 1
        omega
  · rw [List.concat_eq_append] at split
    have some_ : shape.names ≠ [] :=
      split ▸ List.append_ne_nil_of_right_ne_nil front (List.cons_ne_nil last [])
    rw [land, land, leave_names, leave_climbs_of_names _ some_,
      List.dropLast_append_of_ne_nil some_]

/-- **One segment changes where the shape leads as it changes the shape.** -/
theorem land_enter {piece : String} (bare : Path.Bare piece) (means : Path.Means piece)
    (sets : (shape.enter piece).SetsOut start) :
    (shape.land start).step piece = (shape.enter piece).land start := by
  rcases piece_cases bare with silent | rfl | isName
  · exact (silent means).elim
  · exact land_leave sets
  · rw [Place.step_name _ means.2 isName.inward, enter_name _ isName, land, land, add_names,
      add_climbs, List.append_assoc]

/-- So segments one behind the other lead where the shape they make up leads. -/
theorem land_foldl_enter {parts : List String}
    (moves : ∀ piece ∈ parts, Path.Bare piece ∧ Path.Means piece)
    (sets : (parts.foldl enter shape).SetsOut start) :
    (shape.land start).follow parts = (parts.foldl enter shape).land start := by
  induction parts generalizing shape with
  | nil => rfl
  | cons piece rest ih =>
      obtain ⟨⟨bare, means⟩, later⟩ := List.forall_mem_cons.mp moves
      rw [List.foldl_cons] at sets ⊢
      have setsHere : (shape.enter piece).SetsOut start := by
        refine ⟨fun rooted => sets.atRoot ?_, ?_⟩
        · rw [rooted_foldl_enter]
          exact rooted
        · exact Nat.le_trans (climbs_le_foldl_enter _ rest) sets.deep
      rw [Place.follow_cons, land_enter bare means setsHere, ih later sets]

/-- **A path ends where its shape leads.** -/
theorem follow_names {path : String} (sets : (of path).SetsOut start) :
    start.follow (Path.names path) = (of path).land start := by
  have begins : (still (Path.isAbsolute path)).land start = start := by
    change start.take (start.length - 0) ++ [] = start
    rw [Nat.sub_zero, List.take_length, List.append_nil]
  rw [of_eq] at sets ⊢
  rw [← land_foldl_enter _ sets, begins]
  intro piece member
  exact ⟨Path.bare_of_mem_names member, Path.means_of_mem_names member⟩

end Shape

/-- Two paths end at the same directory: when they start at the root, from there, and when they
are relative, from every directory that is deep enough. -/
structure LeadAlike (first second : String) : Prop where
  rooted : Path.isAbsolute first = Path.isAbsolute second
  fromRoot : Path.isAbsolute first = true →
    Place.follow [] (Path.names first) = Place.follow [] (Path.names second)
  fromDeep : Path.isAbsolute first = false → ∃ depth, ∀ start : Place,
    (∀ name ∈ start, Path.IsName name) → depth ≤ start.length →
      start.follow (Path.names first) = start.follow (Path.names second)

section

variable {first second : Shape} {depth : Nat}
  (alike : ∀ start : Place, (∀ name ∈ start, Path.IsName name) → depth ≤ start.length →
    first.land start = second.land start)
include alike

theorem Shape.land_replicate {name : String} (isName : Path.IsName name) :
    first.land (List.replicate depth name) = second.land (List.replicate depth name) := by
  apply alike
  · intro other member
    exact List.eq_of_mem_replicate member ▸ isName
  · exact Nat.le_of_eq List.length_replicate.symm

/-- Of two relative shapes that lead alike, none goes further up: the names that it would go back
over could be any. -/
theorem Shape.climbs_le_of_land (deep : first.climbs ≤ depth ∧ second.climbs ≤ depth) :
    second.climbs ≤ first.climbs := by
  apply Nat.le_of_not_lt
  intro further
  -- From a place that repeats one name, the other shape would have to go down to that name first.
  have leads (name : String) (isName : Path.IsName name) : second.names.head? = some name := by
    have same := land_replicate alike isName
    have more : depth - first.climbs =
        (depth - second.climbs) + (second.climbs - first.climbs - 1 + 1) := by omega
    rw [land, land, List.length_replicate, List.take_replicate, List.take_replicate,
      Nat.min_eq_left (Nat.sub_le _ _), Nat.min_eq_left (Nat.sub_le _ _), more, List.replicate_add,
      List.append_assoc, List.append_cancel_left_eq] at same
    rw [← same]
    rfl
  have one := leads "a" (by decide)
  have other := leads "b" (by decide)
  exact absurd (Option.some.inj (one.symm.trans other)) (by decide)

/-- **Relative shapes that lead alike are the same.** -/
theorem Shape.eq_of_land (relative : first.rooted = false) (otherRelative : second.rooted = false)
    (deep : first.climbs ≤ depth ∧ second.climbs ≤ depth) : first = second := by
  have climbs : first.climbs = second.climbs := by
    apply Nat.le_antisymm
    · exact climbs_le_of_land (fun start names long => (alike start names long).symm) deep.symm
    · exact climbs_le_of_land alike deep
  have isName : Path.IsName "a" := by decide
  have same := land_replicate alike isName
  rw [land, land, climbs, List.append_cancel_left_eq] at same
  exact Shape.ext (relative.trans otherRelative.symm) climbs same

end

/-- An absolute path can be followed from the root. -/
theorem setsOut_root {path : String} (absolute : Path.isAbsolute path = true) :
    (Shape.of path).SetsOut [] where
  atRoot _ := rfl
  deep := Nat.le_of_eq ((Shape.of path).stays ((Shape.rooted_of path).trans absolute))

/-- A relative path can be followed from any place deep enough for its steps up. -/
theorem setsOut_deep {path : String} {start : Place} (relative : Path.isAbsolute path = false)
    (deep : (Shape.of path).climbs ≤ start.length) : (Shape.of path).SetsOut start where
  atRoot absolute := by
    rw [Shape.rooted_of, relative] at absolute
    cases absolute
  deep := deep

/-- Paths of one shape lead alike. -/
theorem leadAlike_of_shape {first second : String} (same : Shape.of first = Shape.of second) :
    LeadAlike first second where
  rooted := by rw [← Shape.rooted_of, same, Shape.rooted_of]
  fromRoot absolute := by
    have sets := setsOut_root absolute
    rw [Shape.follow_names sets, Shape.follow_names (same ▸ sets), same]
  fromDeep relative := by
    refine ⟨(Shape.of first).climbs, ?_⟩
    intro start _ deep
    have sets := setsOut_deep relative deep
    rw [Shape.follow_names sets, Shape.follow_names (same ▸ sets), same]

/-- Paths that lead alike have one shape. -/
theorem LeadAlike.shape_eq {first second : String} (alike : LeadAlike first second) :
    Shape.of first = Shape.of second := by
  obtain ⟨rooted, fromRoot, fromDeep⟩ := alike
  cases start : Path.isAbsolute first with
  | true =>
      have sets := setsOut_root start
      have other := setsOut_root (rooted ▸ start)
      have names := fromRoot start
      rw [Shape.follow_names sets, Shape.follow_names other, Shape.land, Shape.land, List.take_nil,
        List.take_nil, List.nil_append, List.nil_append] at names
      apply Shape.ext
      · rw [Shape.rooted_of, Shape.rooted_of, rooted]
      · exact (Nat.le_zero.mp sets.deep).trans (Nat.le_zero.mp other.deep).symm
      · exact names
  | false =>
      obtain ⟨depth, alike⟩ := fromDeep start
      have relative : Path.isAbsolute second = false := rooted ▸ start
      -- Deep enough for what is assumed, and for both paths to set out.
      let enough := max depth (max (Shape.of first).climbs (Shape.of second).climbs)
      have land (place : Place) (names : ∀ name ∈ place, Path.IsName name)
          (deep : enough ≤ place.length) :
          (Shape.of first).land place = (Shape.of second).land place := by
        have sets : (Shape.of first).SetsOut place := setsOut_deep start (by omega)
        have other : (Shape.of second).SetsOut place := setsOut_deep relative (by omega)
        rw [← Shape.follow_names sets, ← Shape.follow_names other]
        exact alike place names (by omega)
      exact Shape.eq_of_land land ((Shape.rooted_of first).trans start)
        ((Shape.rooted_of second).trans relative) (by omega)

/-- **Two paths have the same clean spelling exactly when they lead alike.** -/
theorem clean_eq_clean_iff_leadAlike (first second : String) :
    clean first = clean second ↔ LeadAlike first second :=
  (clean_eq_clean_iff_of first second).trans
    ⟨leadAlike_of_shape, LeadAlike.shape_eq⟩

/-! ## Lengths -/

/-- Pushing keeps some of the segments, in order. -/
theorem push_sublist (rooted : Bool) (kept : List Segment) (segment : Segment) :
    (push rooted kept segment).Sublist (segment :: kept) := by
  by_cases parent : segment = up
  · rw [parent, Shape.push_up]
    cases kept with
    | nil =>
        cases rooted with
        | true => exact List.nil_sublist _
        | false => exact List.Sublist.refl _
    | cons top below =>
        simp only
        split
        next => exact List.Sublist.refl _
        next => exact (List.sublist_cons_self _ _).trans (List.sublist_cons_self _ _)
  · unfold push
    rw [if_neg parent]
    split
    · exact List.sublist_cons_self _ _
    · exact List.Sublist.refl _

theorem foldl_push_sublist (rooted : Bool) (segments kept : List Segment) :
    (segments.foldl (push rooted) kept).reverse.Sublist (kept.reverse ++ segments) := by
  induction segments generalizing kept with
  | nil => rw [List.foldl_nil, List.append_nil]
  | cons segment rest ih =>
      have step := (push_sublist rooted kept segment).reverse.append_right rest
      rw [List.reverse_cons, List.append_assoc, List.singleton_append] at step
      exact (ih _).trans step

/-- With fewer parts there is no more to put between marks. -/
theorem intercalate_sublist {α : Type} (mark : List α) {fewer parts : List (List α)}
    (sub : fewer.Sublist parts) : (mark.intercalate fewer).Sublist (mark.intercalate parts) := by
  induction sub with
  | slnil => exact List.Sublist.refl _
  | @cons fewer parts part sub ih =>
      cases parts with
      | nil =>
          rw [List.sublist_nil.mp sub]
          exact List.nil_sublist _
      | cons next rest =>
          rw [List.intercalate_cons_cons]
          exact ih.trans (List.sublist_append_right _ _)
  | @cons_cons fewer parts part sub ih =>
      cases fewer with
      | nil =>
          rw [List.intercalate_singleton]
          cases parts with
          | nil => rw [List.intercalate_singleton]
          | cons next rest =>
              rw [List.intercalate_cons_cons, List.append_assoc]
              exact List.sublist_append_left _ _
      | cons first others =>
          cases parts with
          | nil => exact nomatch List.sublist_nil.mp sub
          | cons next rest =>
              rw [List.intercalate_cons_cons, List.intercalate_cons_cons]
              exact ih.append_left _

/-- A relative path that comes to nothing holds a dot: what it does not skip, it goes back over. -/
theorem dot_mem_of_keptSegments_eq_nil {path : List Char} (some_ : path ≠ [])
    (relative : isRooted path = false) (nothing : keptSegments path = []) : '.' ∈ path := by
  apply Decidable.of_not_not
  intro absent
  have dotless : ∀ segment ∈ segments path, '.' ∉ segment := fun segment member inside =>
    absent ((Path.mem_iff_mem_splitOn (by decide) path).mpr ⟨segment, member, inside⟩)
  have kept := foldl_push (isRooted path) (segments path) []
    fun member => dotless up member (by decide)
  rw [keptSegments, kept, List.append_nil, List.reverse_reverse] at nothing
  obtain ⟨letter, rest, rfl⟩ := List.exists_cons_of_ne_nil some_
  have other : letter ≠ '/' := by
    rintro rfl
    cases relative
  obtain ⟨segment, member, inside⟩ :=
    (Path.mem_iff_mem_splitOn other (letter :: rest)).mp List.mem_cons_self
  apply List.filter_eq_nil_iff.mp nothing segment member
  apply decide_eq_true
  refine ⟨List.ne_nil_of_mem inside, ?_⟩
  rintro rfl
  exact dotless here member (by decide)

/-- **The characters of a cleaned path stand in the path, in this order.** -/
theorem cleanChars_sublist {path : List Char} (some_ : path ≠ []) :
    (cleanChars path).Sublist path := by
  have kept (rooted : Bool) (text : List Char) :
      (['/'].intercalate ((segments text).foldl (push rooted) []).reverse).Sublist text := by
    have fewer := intercalate_sublist ['/'] (foldl_push_sublist rooted (segments text) [])
    rw [List.reverse_nil, List.nil_append, segments, List.intercalate_splitOn] at fewer
    exact fewer
  unfold cleanChars render
  cases rooted : isRooted path with
  | true =>
      obtain ⟨letter, rest, rfl⟩ := List.exists_cons_of_ne_nil some_
      obtain rfl : letter = '/' := by simpa only [isRooted, List.head?_cons, beq_iff_eq,
        Option.some.injEq] using rooted
      -- The slash in front is a segment of its own, an empty one.
      have same : keptSegments ('/' :: rest) =
          ((segments rest).foldl (push true) []).reverse := by
        rw [keptSegments, rooted, segments, List.splitOn_cons_eq_if_modifyHead,
          if_pos (beq_self_eq_true _)]
        rfl
      rw [if_pos rfl, same]
      exact (kept true rest).cons_cons '/'
  | false =>
      rw [if_neg Bool.false_ne_true]
      split
      next nothing =>
        exact List.singleton_sublist.mpr (dot_mem_of_keptSegments_eq_nil some_ rooted nothing)
      next => exact kept (isRooted path) path

/-- A cleaned path is not longer than the path, in bytes or in characters. -/
theorem clean_le {path : String} (some_ : path ≠ "") :
    (clean path).utf8ByteSize ≤ path.utf8ByteSize ∧ (clean path).length ≤ path.length := by
  have fewer := cleanChars_sublist (String.toList_eq_nil_iff.not.mpr some_)
  constructor
  · have bytes := String.utf8Len_le_of_sublist fewer
    rw [← String.utf8ByteSize_ofList, ← String.utf8ByteSize_ofList, String.ofList_toList] at bytes
    exact bytes
  · rw [clean, String.length_ofList, ← String.length_toList]
    exact fewer.length_le

/-! ## Normal forms -/

/-- The normal forms of paths: parents come first, and only where there are parents to go to. -/
inductive Normal : String → Prop
  | here : Normal "."
  | root : Normal "/"
  | relative {parents : Nat} {names : List String} (named : ∀ name ∈ names, Path.IsName name)
      (some_ : List.replicate parents ".." ++ names ≠ []) :
      Normal ("/".intercalate (List.replicate parents ".." ++ names))
  | absolute {names : List String} (named : ∀ name ∈ names, Path.IsName name)
      (some_ : names ≠ []) : Normal ("/" ++ "/".intercalate names)

/-- The text of a shape is clean already. -/
theorem Shape.normal_text (shape : Shape) : Normal shape.text := by
  unfold text
  split
  next rooted =>
    have inward : shape.pieces = shape.names := by
      rw [pieces, shape.stays rooted, List.replicate_zero, List.nil_append]
    rw [inward]
    by_cases none_ : shape.names = []
    · rw [none_]
      exact .root
    · exact .absolute shape.named none_
  next =>
    split
    next => exact .here
    next some_ => exact .relative shape.named some_

/-- **The normal forms are the texts of shapes.** -/
theorem normal_iff (path : String) : Normal path ↔ ∃ shape : Shape, shape.text = path := by
  constructor
  · intro normal
    cases normal with
    | here => exact ⟨Shape.still false, rfl⟩
    | root => exact ⟨Shape.still true, rfl⟩
    | relative named some_ =>
        exact ⟨⟨false, _, _, nofun, named⟩, if_neg some_⟩
    | absolute named some_ =>
        exact ⟨⟨true, 0, _, fun _ => rfl, named⟩, rfl⟩
  · rintro ⟨shape, rfl⟩
    exact shape.normal_text

/-- **Cleaning keeps the normal forms and nothing else.** -/
theorem clean_eq_self_iff (path : String) : clean path = path ↔ Normal path := by
  rw [normal_iff]
  constructor
  · intro same
    exact ⟨Shape.of path, (Shape.clean_eq_text path).symm.trans same⟩
  · rintro ⟨shape, rfl⟩
    rw [Shape.clean_eq_text, Shape.of_text]

/-- What the clean spelling of a path is among all spellings. -/
structure Canonical (path : String) : Prop where
  normal : Normal (clean path)
  isAbsolute_eq : Path.isAbsolute (clean path) = Path.isAbsolute path
  fixed_iff : clean path = path ↔ Normal path
  idempotent : clean (clean path) = clean path
  same_iff : ∀ other, clean path = clean other ↔ LeadAlike path other
  notLonger : path ≠ "" →
    (clean path).utf8ByteSize ≤ path.utf8ByteSize ∧ (clean path).length ≤ path.length

/-- **The clean spelling is the one normal form among all paths that lead alike.** -/
theorem canonical (path : String) : Canonical path := by
  have normal : Normal (clean path) := Shape.clean_eq_text path ▸ Shape.normal_text _
  exact {
    normal := normal
    isAbsolute_eq := isAbsolute_clean path
    fixed_iff := clean_eq_self_iff path
    idempotent := (clean_eq_self_iff _).mpr normal
    same_iff := clean_eq_clean_iff_leadAlike path
    notLonger := clean_le }

end PipelineDepot.KeyPath
