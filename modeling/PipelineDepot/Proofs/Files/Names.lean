import Mathlib.Data.List.Basic
import PipelineDepot.Files.Path

/-! # The names in a path

The pieces of a path are what stands between its slashes, and its names are the pieces that mean
a step: the empty ones and `.` are left out, `..` is kept (`Path.names`). Joining paths puts the
names behind each other, and the parent of a path has all names but the last. Either way the text
in front decides whether the path starts at the root.
-/

namespace PipelineDepot.Files.Path

/-- Nothing between two slashes holds a slash. -/
theorem not_mem_of_mem_splitOn {α : Type} [DecidableEq α] {mark : α} {text part : List α}
    (member : part ∈ text.splitOn mark) : mark ∉ part := by
  induction text generalizing part with
  | nil =>
      rw [List.splitOn_nil, List.mem_singleton] at member
      subst member
      exact List.not_mem_nil
  | cons head tail ih =>
      rw [List.splitOn_cons_eq_if_modifyHead] at member
      split at member
      next =>
        rcases List.mem_cons.mp member with rfl | later
        · exact List.not_mem_nil
        · exact ih later
      next different =>
        obtain ⟨first, rest, split⟩ := List.exists_cons_of_ne_nil (List.splitOn_ne_nil mark tail)
        rw [split] at member ih
        rcases List.mem_cons.mp member with rfl | later
        · intro inside
          rcases List.mem_cons.mp inside with rfl | deeper
          · exact different (beq_self_eq_true mark)
          · exact ih List.mem_cons_self deeper
        · exact ih (List.mem_cons_of_mem _ later)

/-- Whatever is no mark stands in the text exactly when it stands between two marks. -/
theorem mem_iff_mem_splitOn {α : Type} [DecidableEq α] {mark letter : α} (other : letter ≠ mark)
    (text : List α) : letter ∈ text ↔ ∃ part ∈ text.splitOn mark, letter ∈ part := by
  induction text with
  | nil => simp only [List.splitOn_nil, List.mem_singleton, exists_eq_left]
  | cons head tail ih =>
      rw [List.splitOn_cons_eq_if_modifyHead, List.mem_cons, ih]
      by_cases same : head = mark
      · simp only [same, other, false_or, beq_self_eq_true, ↓reduceIte, List.mem_cons,
          exists_eq_or_imp, List.not_mem_nil]
      · obtain ⟨first, rest, split⟩ := List.exists_cons_of_ne_nil (List.splitOn_ne_nil mark tail)
        simp only [split, beq_eq_false_iff_ne.mpr same, Bool.false_eq_true, ↓reduceIte,
          List.modifyHead_cons, List.mem_cons, exists_eq_or_imp, or_assoc]

/-! ## Pieces -/

/-- A piece without a slash. -/
def Bare (piece : String) : Prop := '/' ∉ piece.toList

theorem bare_of_mem_pieces {path piece : String} (member : piece ∈ pieces path) : Bare piece := by
  obtain ⟨part, inside, rfl⟩ := List.mem_map.mp member
  rw [Bare, String.toList_ofList]
  exact not_mem_of_mem_splitOn inside

theorem pieces_ne_nil (path : String) : pieces path ≠ [] := by
  simp only [pieces, ne_eq, List.map_eq_nil_iff, List.splitOn_ne_nil, not_false_eq_true]

/-- A slash parts the pieces of a path. -/
theorem pieces_append_slash (front back : String) :
    pieces (front ++ "/" ++ back) = pieces front ++ pieces back := by
  have text : (front ++ "/" ++ back).toList = front.toList ++ '/' :: back.toList := by
    simp only [String.toList_append, List.append_assoc]
    rfl
  rw [pieces, text, List.splitOn_append_cons_self, List.map_append]
  rfl

theorem pieces_of_bare {piece : String} (bare : Bare piece) : pieces piece = [piece] := by
  rw [pieces, List.splitOn_eq_singleton bare, List.map_singleton, String.ofList_toList]

@[simp]
theorem pieces_empty : pieces "" = [""] := pieces_of_bare List.not_mem_nil

/-- The pieces of a path are what stands between its slashes. -/
theorem map_toList_pieces (path : String) :
    (pieces path).map String.toList = path.toList.splitOn '/' := by
  have same : String.toList ∘ String.ofList = id := funext fun _ => String.toList_ofList
  rw [pieces, List.map_map, same, List.map_id]

/-- A path is its pieces with slashes between them. -/
theorem intercalate_pieces (path : String) : "/".intercalate (pieces path) = path := by
  apply String.toList_inj.mp
  rw [String.toList_intercalate, map_toList_pieces]
  exact List.intercalate_splitOn '/'

/-- Pieces without a slash are the pieces of what they make up. -/
theorem pieces_intercalate {parts : List String} (bare : ∀ part ∈ parts, Bare part)
    (some_ : parts ≠ []) : pieces ("/".intercalate parts) = parts := by
  have inside : ∀ part ∈ parts.map String.toList, '/' ∉ part := by
    intro part member
    obtain ⟨piece, present, rfl⟩ := List.mem_map.mp member
    exact bare piece present
  rw [pieces, String.toList_intercalate]
  have split := List.splitOn_intercalate '/' inside (List.map_eq_nil_iff.not.mpr some_)
  have slash : "/".toList = ['/'] := rfl
  rw [slash, split, List.map_map]
  have same : String.ofList ∘ String.toList = id := funext fun _ => String.ofList_toList
  rw [same, List.map_id]

/-! ## Names -/

/-- A piece that means a step. -/
def Means (piece : String) : Prop := piece ≠ "" ∧ piece ≠ "."

instance : DecidablePred Means := fun _ => inferInstanceAs (Decidable (_ ∧ _))

theorem filter_means_eq_nil {silent : List String} (quiet : ∀ piece ∈ silent, ¬ Means piece) :
    silent.filter Means = [] :=
  List.filter_eq_nil_iff.mpr fun piece member => by
    simpa only [decide_eq_true_eq] using quiet piece member

theorem filter_means_singleton {piece : String} (means : Means piece) :
    [piece].filter Means = [piece] :=
  List.filter_eq_self.mpr (List.forall_mem_singleton.mpr (decide_eq_true means))

/-- The pieces of a path that mean a step. -/
def names (path : String) : List String := (pieces path).filter Means

theorem laterComponent?_eq_none_iff (piece : String) :
    laterComponent? piece = none ↔ ¬ Means piece := by
  unfold laterComponent? Means
  by_cases silent : piece = "" ∨ piece = "."
  · simp only [silent, ↓reduceIte, true_iff]
    rcases silent with rfl | rfl
    · exact fun means => means.1 rfl
    · exact fun means => means.2 rfl
  · simp only [silent, ↓reduceIte]
    have means := not_or.mp silent
    split <;> simp only [reduceCtorEq, false_iff, not_not] <;> exact means

@[simp]
theorem names_empty : names "" = [] := by
  rw [names, pieces_empty]
  rfl

theorem means_of_mem_names {path name : String} (member : name ∈ names path) : Means name :=
  of_decide_eq_true (List.mem_filter.mp member).2

/-- A character that is neither a slash nor a dot stands in a path exactly when it stands in one
of its names. -/
theorem mem_toList_iff {letter : Char} (slash : letter ≠ '/') (dot : letter ≠ '.')
    (path : String) : letter ∈ path.toList ↔ ∃ name ∈ names path, letter ∈ name.toList := by
  rw [mem_iff_mem_splitOn slash]
  constructor
  · rintro ⟨part, member, inside⟩
    have text : letter ∈ (String.ofList part).toList := String.toList_ofList.symm ▸ inside
    refine ⟨String.ofList part, List.mem_filter.mpr ⟨List.mem_map_of_mem member, ?_⟩, text⟩
    apply decide_eq_true
    constructor
    · intro empty
      rw [empty] at text
      exact List.not_mem_nil text
    · intro current
      rw [current] at text
      exact dot (List.mem_singleton.mp text)
  · rintro ⟨name, member, inside⟩
    obtain ⟨part, present, rfl⟩ := List.mem_map.mp (List.mem_of_mem_filter member)
    rw [String.toList_ofList] at inside
    exact ⟨part, present, inside⟩

/-- Two spellings with the same names hold a NUL character both or neither. -/
theorem nul_mem_toList_congr {first second : String} (same : names first = names second) :
    '\x00' ∈ first.toList ↔ '\x00' ∈ second.toList := by
  rw [mem_toList_iff (by decide) (by decide), same, mem_toList_iff (by decide) (by decide)]

/-- The text behind the last slash is a name. -/
def EndsInName (path : String) : Prop :=
  ∃ last, (pieces path).getLast? = some last ∧ Means last

/-- The text behind the last slash is the last name. -/
theorem EndsInName.split {path : String} (ends : EndsInName path) :
    ∃ front last, pieces path = front ++ [last] ∧ Means last ∧
      names path = front.filter Means ++ [last] := by
  obtain ⟨last, found, means⟩ := ends
  obtain ⟨front, parted⟩ := List.getLast?_eq_some_iff.mp found
  refine ⟨front, last, parted, means, ?_⟩
  rw [names, parted, List.filter_append, filter_means_singleton means]

/-- A slash at the end of a path is a last, empty piece. -/
theorem pieces_of_slash {path : String} (slash : path.toList.getLast? = some '/') :
    ∃ front, path = front ++ "/" ∧ pieces path = pieces front ++ [""] := by
  obtain ⟨front, text⟩ := List.getLast?_eq_some_iff.mp slash
  have parted : path = String.ofList front ++ "/" := by
    apply String.toList_inj.mp
    rw [text, String.toList_append, String.toList_ofList]
    rfl
  have whole := pieces_append_slash (String.ofList front) ""
  rw [String.append_empty, pieces_empty, ← parted] at whole
  exact ⟨String.ofList front, parted, whole⟩

/-- A last, empty piece behind others is a slash at the end. -/
theorem slash_of_pieces {path : String} {front : List String} (some_ : front ≠ [])
    (split : pieces path = front ++ [""]) : path.toList.getLast? = some '/' := by
  have text := intercalate_pieces path
  have nothing : "/".intercalate [""] = "" := rfl
  rw [split, String.intercalate_append_of_ne_nil some_ (List.cons_ne_nil _ _), nothing,
    String.append_empty] at text
  rw [← text, String.toList_append]
  exact List.getLast?_concat

/-! ## Paths from the root -/

/-- A path starts at the root when its first piece is empty and others follow. -/
theorem isAbsolute_iff (path : String) :
    isAbsolute path = true ↔ ∃ rest, rest ≠ [] ∧ pieces path = "" :: rest := by
  rw [isAbsolute, pieces, beq_iff_eq]
  cases path.toList with
  | nil =>
      simp only [List.head?_nil, reduceCtorEq, List.splitOn_nil, List.map_singleton, false_iff,
        not_exists, not_and]
      intro rest some_ split
      exact some_ (List.cons.inj split).2.symm
  | cons head tail =>
      rw [List.head?_cons, Option.some.injEq, List.splitOn_cons_eq_if_modifyHead]
      by_cases slash : head = '/'
      · simp only [slash, beq_self_eq_true, ↓reduceIte, List.map_cons, true_iff]
        exact ⟨_, List.map_eq_nil_iff.not.mpr (List.splitOn_ne_nil _ _), rfl⟩
      · simp only [slash, beq_iff_eq, ↓reduceIte, false_iff, not_exists, not_and]
        intro rest _ split
        obtain ⟨first, later, parts⟩ := List.exists_cons_of_ne_nil (List.splitOn_ne_nil '/' tail)
        rw [parts, List.modifyHead_cons, List.map_cons] at split
        have empty := congrArg String.toList (List.cons.inj split).1
        rw [String.toList_ofList] at empty
        exact List.cons_ne_nil _ _ empty

theorem isAbsolute_append {front : String} (some_ : front ≠ "") (back : String) :
    isAbsolute (front ++ back) = isAbsolute front := by
  obtain ⟨head, tail, text⟩ :=
    List.exists_cons_of_ne_nil (String.toList_eq_nil_iff.not.mpr some_)
  simp only [isAbsolute, String.toList_append, text, List.cons_append, List.head?_cons]

/-! ## Joining -/

/-- Joining puts the pieces of a relative path behind pieces with the names of the base. -/
theorem pieces_join (base : String) {child : String} (relative : isAbsolute child = false) :
    ∃ front, pieces (join base child) = front ++ pieces child ∧
      front.filter Means = names base := by
  simp only [join, relative, Bool.false_eq_true, false_or]
  split
  next empty =>
    subst empty
    exact ⟨[], rfl, names_empty.symm⟩
  next some_ =>
    split
    next slash =>
      obtain ⟨front, parted, whole⟩ := pieces_of_slash slash
      refine ⟨pieces front, ?_, ?_⟩
      · rw [parted, pieces_append_slash]
      · rw [names, whole, List.filter_append]
        exact (List.append_nil _).symm
    next => exact ⟨pieces base, pieces_append_slash base child, rfl⟩

/-- A relative path joined to another adds its names. -/
theorem names_join (base : String) {child : String} (relative : isAbsolute child = false) :
    names (join base child) = names base ++ names child := by
  obtain ⟨front, split, same⟩ := pieces_join base relative
  rw [names, split, List.filter_append, same]
  rfl

/-- A joined path is at least as long as its second part. -/
theorem utf8ByteSize_le_join (base child : String) :
    child.utf8ByteSize ≤ (join base child).utf8ByteSize := by
  unfold join
  split
  next => exact Nat.le_refl _
  next => split <;> rw [String.utf8ByteSize_append] <;> exact Nat.le_add_left _ _

/-- The last piece of a joined path is that of its second part. -/
theorem getLast?_pieces_join (base : String) {child : String}
    (relative : isAbsolute child = false) :
    (pieces (join base child)).getLast? = (pieces child).getLast? := by
  obtain ⟨front, split, -⟩ := pieces_join base relative
  rw [split, List.getLast?_append_of_ne_nil _ (pieces_ne_nil child)]

theorem isAbsolute_join (base : String) {child : String} (relative : isAbsolute child = false) :
    isAbsolute (join base child) = isAbsolute base := by
  simp only [join, relative, Bool.false_eq_true, false_or]
  split
  next empty =>
    subst empty
    exact relative
  next some_ =>
    split
    next => exact isAbsolute_append some_ child
    next => rw [String.append_assoc, isAbsolute_append some_]

end PipelineDepot.Files.Path
