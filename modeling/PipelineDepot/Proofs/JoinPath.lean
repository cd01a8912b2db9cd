import PipelineDepot.Proofs.CleanPath

/-! # Where joined paths lead

Cleaning a path keeps its start and leaves the segments that the path resolves to, without
looking at any directory (`KeyPath.names_clean`). A plain path joined to others only adds its
names behind theirs (`KeyPath.names_join_concat`), so what is joined to a place by plain paths
stays within that place (`Files.Path.Within`).
-/

namespace PipelineDepot

open Files

/-- The path leads to the base or below it: both start alike, and the names of the base come
first among those of the path. -/
structure Files.Path.Within (path base : String) : Prop where
  rooted : Path.isAbsolute path = Path.isAbsolute base
  leads : Path.names base <+: Path.names path

namespace KeyPath

theorem map_ofList_toList (texts : List String) :
    (texts.map String.toList).map String.ofList = texts := by
  have same : String.ofList ∘ String.toList = id := funext fun _ => String.ofList_toList
  rw [List.map_map, same, List.map_id]

/-- A segment that names a step, with no slash in it. -/
structure Names (segment : Segment) : Prop where
  bare : '/' ∉ segment
  some_ : segment ≠ []
  moves : segment ≠ here

/-- Pushing a segment brings in nothing but the segment, and only one with a meaning. -/
theorem mem_push {rooted : Bool} {kept : List Segment} {segment next : Segment}
    (member : segment ∈ push rooted kept next) :
    segment ∈ kept ∨ (segment = next ∧ next ≠ [] ∧ next ≠ here) := by
  unfold push at member
  split at member
  next => exact Or.inl member
  next silent =>
    have means := not_or.mp silent
    split at member
    next parent =>
      subst parent
      cases kept with
      | nil =>
          cases rooted with
          | true => exact (List.not_mem_nil member).elim
          | false => exact Or.inr ⟨List.mem_singleton.mp member, means⟩
      | cons top below =>
          simp only at member
          split at member
          next =>
            rcases List.mem_cons.mp member with rfl | inside
            · exact Or.inr ⟨rfl, means⟩
            · exact Or.inl inside
          next => exact Or.inl (List.mem_cons_of_mem top member)
    next =>
      rcases List.mem_cons.mp member with rfl | inside
      · exact Or.inr ⟨rfl, means⟩
      · exact Or.inl inside

/-- Whatever a path keeps is one of its segments and names a step. -/
theorem names_of_mem_keptSegments {path : List Char} {segment : Segment}
    (member : segment ∈ keptSegments path) : Names segment := by
  have kept : ∀ (rest kept : List Segment), (∀ next ∈ rest, '/' ∉ next) →
      (∀ other ∈ kept, Names other) →
        ∀ other ∈ rest.foldl (push (isRooted path)) kept, Names other := by
    intro rest
    induction rest with
    | nil =>
        intro kept _ named
        exact named
    | cons next rest ih =>
        intro kept bare named
        obtain ⟨here, later⟩ := List.forall_mem_cons.mp bare
        apply ih _ later
        intro other inside
        rcases mem_push inside with before | ⟨rfl, some_, moves⟩
        · exact named other before
        · exact ⟨here, some_, moves⟩
  apply kept (segments path) [] _ _ segment (List.mem_reverse.mp member)
  · intro next inside
    exact Path.not_mem_of_mem_splitOn inside
  · intro other inside
    exact (List.not_mem_nil inside).elim

theorem means_ofList {segment : Segment} (named : Names segment) :
    Path.Means (String.ofList segment) := by
  constructor
  · intro empty
    have text := congrArg String.toList empty
    rw [String.toList_ofList] at text
    exact named.some_ text
  · intro dot
    have text := congrArg String.toList dot
    rw [String.toList_ofList] at text
    exact named.moves text

/-- Segments with slashes between them spell out the segments. -/
theorem names_ofList_intercalate {kept : List Segment} (named : ∀ segment ∈ kept, Names segment) :
    Path.names (String.ofList (['/'].intercalate kept)) = kept.map String.ofList := by
  by_cases some_ : kept = []
  · subst some_
    exact Path.names_empty
  have bare : ∀ segment ∈ kept, '/' ∉ segment := fun segment member => (named segment member).bare
  have split := List.splitOn_intercalate '/' bare some_
  rw [Path.names, Path.pieces, String.toList_ofList, split, List.filter_eq_self]
  intro piece member
  obtain ⟨segment, inside, rfl⟩ := List.mem_map.mp member
  exact decide_eq_true (means_ofList (named segment inside))

/-- A rendered path has the names it was rendered from. -/
theorem names_render {kept : List Segment} (rooted : Bool)
    (named : ∀ segment ∈ kept, Names segment) :
    Path.names (String.ofList (render rooted kept)) = kept.map String.ofList := by
  unfold render
  split
  next =>
    have text : String.ofList ('/' :: ['/'].intercalate kept) =
        "" ++ "/" ++ String.ofList (['/'].intercalate kept) := by
      apply String.toList_inj.mp
      simp only [String.toList_ofList, String.toList_append]
      rfl
    rw [text, Path.names_append_slash, Path.names_empty, List.nil_append,
      names_ofList_intercalate named]
  next =>
    split
    next nothing =>
      subst nothing
      rfl
    next => exact names_ofList_intercalate named

/-- A rendered path starts where it was asked to start. -/
theorem isAbsolute_render {kept : List Segment} (rooted : Bool)
    (named : ∀ segment ∈ kept, Names segment) :
    Path.isAbsolute (String.ofList (render rooted kept)) = rooted := by
  rw [Path.isAbsolute, String.toList_ofList]
  unfold render
  cases rooted with
  | true => rfl
  | false =>
      simp only [Bool.false_eq_true, ↓reduceIte]
      split
      next => rfl
      next some_ =>
        obtain ⟨first, rest, rfl⟩ := List.exists_cons_of_ne_nil some_
        have head := named first List.mem_cons_self
        obtain ⟨letter, tail, rfl⟩ := List.exists_cons_of_ne_nil head.some_
        have other : letter ≠ '/' := by
          rintro rfl
          exact head.bare List.mem_cons_self
        cases rest <;> simp [List.intercalate_cons_cons, other]

/-- **Cleaning leaves the segments that the path resolves to.** -/
theorem names_clean (path : String) :
    Path.names (clean path) = (keptSegments path.toList).map String.ofList :=
  names_render _ fun _ member => names_of_mem_keptSegments member

/-- Cleaning keeps where a path starts. -/
theorem isAbsolute_clean (path : String) : Path.isAbsolute (clean path) = Path.isAbsolute path :=
  isAbsolute_render _ fun _ member => names_of_mem_keptSegments member

/-- A plain path behind another only adds its names to what the other resolves to. -/
theorem names_clean_append_slash {front child : String} (some_ : front ≠ "")
    (plain : Path.Plain child) :
    Path.names (clean (front ++ "/" ++ child)) = Path.names (clean front) ++ Path.names child := by
  have rooted : isRooted (front ++ "/" ++ child).toList = isRooted front.toList := by
    change Path.isAbsolute _ = Path.isAbsolute _
    rw [String.append_assoc, Path.isAbsolute_append some_]
  have added : keptSegments (front ++ "/" ++ child).toList =
      keptSegments front.toList ++ (Path.names child).map String.toList := by
    rw [keptSegments, keptSegments, rooted, segments_toList, Path.pieces_append_slash,
      List.map_append, List.foldl_append, ← segments_toList, ← segments_toList,
      foldl_push_toList _ _ plain, List.reverse_append, List.reverse_reverse]
  rw [names_clean, names_clean, added, List.map_append, map_ofList_toList]

/-- Joining cleans what stands between the slashes, empty elements left out. -/
theorem join_eq (elements : List String) :
    join elements =
      if elements.filter (· ≠ "") = [] then ""
      else clean ("/".intercalate (elements.filter (· ≠ ""))) := by
  have parts : (elements.map String.toList).filter (· ≠ []) =
      (elements.filter (· ≠ "")).map String.toList := by
    rw [List.filter_map]
    apply congrArg
    apply List.filter_congr
    intro element _
    simp only [Function.comp_apply, ne_eq, String.toList_eq_nil_iff]
  unfold join
  rw [parts]
  cases kept : elements.filter (· ≠ "") with
  | nil => rfl
  | cons first rest =>
      simp only [List.map_cons, reduceCtorEq, ↓reduceIte, clean, String.toList_intercalate]
      rfl

/-- **A plain path joined to others adds its names behind theirs.** -/
theorem names_join_concat (elements : List String) {child : String} (some_ : child ≠ "")
    (plain : Path.Plain child) :
    Path.names (join (elements ++ [child])) = Path.names (join elements) ++ Path.names child ∧
      Path.isAbsolute (join (elements ++ [child])) = Path.isAbsolute (join elements) := by
  have last : [child].filter (· ≠ "") = [child] :=
    List.filter_eq_self.mpr (List.forall_mem_singleton.mpr (decide_eq_true some_))
  have more : (elements ++ [child]).filter (· ≠ "") ≠ [] := by
    rw [List.filter_append, last]
    exact List.append_ne_nil_of_right_ne_nil _ (List.cons_ne_nil _ _)
  rw [join_eq (elements ++ [child]), if_neg more, List.filter_append, last, join_eq elements]
  by_cases nothing : elements.filter (· ≠ "") = []
  · rw [if_pos nothing, nothing, List.nil_append, String.intercalate_singleton, isAbsolute_clean,
      names_clean, keptSegments_toList plain, map_ofList_toList, Path.names_empty, List.nil_append]
    exact ⟨rfl, plain.relative⟩
  · rw [if_neg nothing, String.intercalate_append_of_ne_nil nothing (List.cons_ne_nil _ _),
      String.intercalate_singleton]
    have spelled : "/".intercalate (elements.filter (· ≠ "")) ≠ "" := by
      obtain ⟨first, rest, split⟩ := List.exists_cons_of_ne_nil nothing
      have member : first ∈ elements.filter (· ≠ "") := split ▸ List.mem_cons_self
      have head : first ≠ "" := of_decide_eq_true (List.mem_filter.mp member).2
      rw [split]
      cases rest with
      | nil => exact head
      | cons second others =>
          rw [String.intercalate_cons_cons, String.append_assoc]
          exact fun empty => head (String.append_eq_empty_iff.mp empty).1
    refine ⟨names_clean_append_slash spelled plain, ?_⟩
    rw [isAbsolute_clean, isAbsolute_clean, String.append_assoc, Path.isAbsolute_append spelled]

end KeyPath

end PipelineDepot
