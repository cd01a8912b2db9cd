import PipelineDepot.Proofs.KeyPath.Below

/-! # Joining what has been joined

Joining is a fold over the elements: each is put behind those before it (`put`), empty ones count
for nothing, and the text of the shape that comes out is the joined path (`join_eq_elim`). A fold
can be cut anywhere, so elements that have been joined before can stand for themselves in front of
others. Behind others they can when they start with a relative one: a shape then leads below
another as its elements do one after the other (`foldl_put_of_relative`). A joined path that starts
at the root would have forgotten the parents that it could not go up to.
-/

namespace PipelineDepot.KeyPath

open Files

/-- The first element that is not empty. -/
def leading? (elements : List String) : Option String := elements.find? (· ≠ "")

/-- Puts an element behind those before it. An empty one makes no difference, and the first other
one is read as it is; those behind it are read as relative paths. -/
def put (before : Option Shape) (element : String) : Option Shape :=
  match before with
  | none => if element = "" then none else some (Shape.of element)
  | some shape => some (shape.below (Shape.of (unrooted element)))

/-- The shape of elements put behind each other; without any but empty ones there is none. -/
def shape? (elements : List String) : Option Shape := elements.foldl put none

theorem put_empty (before : Option Shape) : put before "" = before := by
  cases before with
  | none => rfl
  | some shape => exact congrArg some shape.below_still

theorem put_none {element : String} (some_ : element ≠ "") :
    put none element = some (Shape.of element) := if_neg some_

theorem leading?_empty (rest : List String) : leading? ("" :: rest) = leading? rest :=
  List.find?_cons_of_neg (by decide)

theorem leading?_cons {element : String} (some_ : element ≠ "") (rest : List String) :
    leading? (element :: rest) = some element :=
  List.find?_cons_of_pos (decide_eq_true some_)

/-- Elements are put one after the other. -/
theorem shape?_append (front back : List String) :
    shape? (front ++ back) = back.foldl put (shape? front) := List.foldl_append

/-- Empty elements count for nothing. -/
theorem shape?_filter (elements : List String) :
    shape? (elements.filter (· ≠ "")) = shape? elements := by
  have left_out (before : Option Shape) :
      (elements.filter (· ≠ "")).foldl put before = elements.foldl put before := by
    induction elements generalizing before with
    | nil => rfl
    | cons element rest ih =>
        rw [List.filter_cons, List.foldl_cons, ← ih]
        by_cases empty : element = ""
        · rw [if_neg (by simpa only [decide_eq_true_eq, ne_eq, not_not]), empty, put_empty]
        · rw [if_pos (decide_eq_true empty), List.foldl_cons]
  exact left_out none

/-- Behind an element there is a shape, and it starts where that of the element starts. -/
theorem exists_foldl_put (shape : Shape) (elements : List String) :
    ∃ last, elements.foldl put (some shape) = some last ∧ last.rooted = shape.rooted := by
  induction elements generalizing shape with
  | nil => exact ⟨shape, rfl, rfl⟩
  | cons element rest ih => exact ih _

/-- The elements put behind each other lead where they do with slashes between them. -/
theorem foldl_put_some {first : String} (some_ : first ≠ "") (rest : List String) :
    rest.foldl put (some (Shape.of first)) =
      some (Shape.of ("/".intercalate (first :: rest))) := by
  induction rest generalizing first with
  | nil => rw [String.intercalate_singleton, List.foldl_nil]
  | cons second rest ih =>
      have longer : first ++ "/" ++ second ≠ "" := by
        rw [String.append_assoc]
        exact fun empty => some_ (String.append_eq_empty_iff.mp empty).1
      have merged : "/".intercalate (first :: second :: rest) =
          "/".intercalate ((first ++ "/" ++ second) :: rest) := by
        cases rest <;> simp only [String.intercalate_cons_cons, String.intercalate_singleton,
          String.append_assoc]
      rw [merged, ← ih longer, List.foldl_cons, Shape.of_append_slash some_, put]

/-- **Joining spells out the shape of its elements.** -/
theorem join_eq_elim (elements : List String) :
    join elements = (shape? elements).elim "" Shape.text := by
  rw [join_eq, ← shape?_filter]
  have spoken : ∀ element ∈ elements.filter (· ≠ ""), element ≠ "" := fun element member =>
    of_decide_eq_true (List.mem_filter.mp member).2
  cases kept : elements.filter (· ≠ "") with
  | nil => rfl
  | cons first rest =>
      have some_ : first ≠ "" := spoken first (kept ▸ List.mem_cons_self)
      rw [if_neg (List.cons_ne_nil _ _), shape?, List.foldl_cons, put_none some_,
        foldl_put_some some_, Option.elim_some, Shape.clean_eq_text]

/-- What is joined depends on the shape that the elements come to and on nothing else. -/
theorem join_congr {elements other : List String} (same : shape? elements = shape? other) :
    join elements = join other := by
  rw [join_eq_elim, join_eq_elim, same]

/-- What has been joined stands for its elements. -/
theorem put_none_join (elements : List String) : put none (join elements) = shape? elements := by
  rw [join_eq_elim]
  cases shape? elements with
  | none => rfl
  | some shape =>
      rw [Option.elim_some, put_none shape.text_ne_empty, Shape.of_text]

/-- Where joined elements start, the first of them starts that is not empty. -/
theorem any_rooted_shape? (elements : List String) :
    (shape? elements).any Shape.rooted = (leading? elements).any Path.isAbsolute := by
  induction elements with
  | nil => rfl
  | cons element rest ih =>
      by_cases empty : element = ""
      · rw [empty, leading?_empty, shape?, List.foldl_cons, put_empty]
        exact ih
      · obtain ⟨last, reached, rooted⟩ := exists_foldl_put (Shape.of element) rest
        rw [leading?_cons empty, shape?, List.foldl_cons, put_none empty, reached, Option.any_some,
          Option.any_some, rooted, Shape.rooted_of]

/-- Only elements that are all empty come to no shape. -/
theorem shape?_eq_none_iff (elements : List String) :
    shape? elements = none ↔ ∀ element ∈ elements, element = "" := by
  induction elements with
  | nil => exact iff_of_true rfl fun _ member => (List.not_mem_nil member).elim
  | cons element rest ih =>
      rw [List.forall_mem_cons]
      by_cases empty : element = ""
      · rw [shape?, List.foldl_cons, empty, put_empty, and_iff_right rfl]
        exact ih
      · obtain ⟨last, reached, -⟩ := exists_foldl_put (Shape.of element) rest
        rw [shape?, List.foldl_cons, put_none empty, reached]
        exact iff_of_false (Option.some_ne_none last) fun none_ => empty none_.1

/-! ## Behind others -/

section Behind

variable (base : Shape)

/-- Elements behind a relative shape lead below a base as they lead alone. -/
theorem foldl_put_below {child : Shape} (relative : child.rooted = false)
    (elements : List String) :
    elements.foldl put (some (base.below child)) =
      (elements.foldl put (some child)).map base.below := by
  induction elements generalizing child with
  | nil => rfl
  | cons element rest ih =>
      rw [List.foldl_cons, List.foldl_cons, put, put, base.below_below relative]
      exact ih ((child.below_rooted _).trans relative)

/-- **Elements that start with a relative one lead below a base as what they join to.** -/
theorem foldl_put_of_relative {elements : List String}
    (relative : ∀ first, leading? elements = some first → Path.isAbsolute first = false) :
    elements.foldl put (some base) = some ((shape? elements).elim base base.below) := by
  induction elements with
  | nil => rfl
  | cons element rest ih =>
      by_cases empty : element = ""
      · rw [empty, leading?_empty] at relative
        rw [shape?, List.foldl_cons, List.foldl_cons, empty, put_empty, put_empty]
        exact ih relative
      · have here : Path.isAbsolute element = false := relative element (leading?_cons empty rest)
        have behind : put (some base) element = some (base.below (Shape.of element)) := by
          rw [put, Shape.of_unrooted_of_relative here]
        obtain ⟨last, reached, -⟩ := exists_foldl_put (Shape.of element) rest
        rw [shape?, List.foldl_cons, List.foldl_cons, behind, put_none empty,
          foldl_put_below base ((Shape.rooted_of element).trans here), reached, Option.map_some,
          Option.elim_some]

end Behind

/-- What has been joined from elements that start with a relative one stands for them behind
others, too. -/
theorem put_join_of_relative {elements : List String}
    (relative : ∀ first, leading? elements = some first → Path.isAbsolute first = false)
    (before : Option Shape) : put before (join elements) = elements.foldl put before := by
  cases before with
  | none => exact put_none_join elements
  | some base =>
      rw [foldl_put_of_relative base relative, join_eq_elim]
      have starts := any_rooted_shape? elements
      cases reached : shape? elements with
      | none => exact put_empty (some base)
      | some shape =>
          have free : shape.rooted = false := by
            rw [reached, Option.any_some] at starts
            rw [starts]
            cases first : leading? elements with
            | none => rfl
            | some first_ => exact relative first_ first
          have absolute : Path.isAbsolute shape.text = false := by rw [shape.isAbsolute_text, free]
          rw [Option.elim_some, Option.elim_some, put, Shape.of_unrooted_of_relative absolute,
            Shape.of_text]

/-- How elements join that have been joined in part before. -/
structure Flattens (front back : List String) : Prop where
  inFront : join ([join front] ++ back) = join (front ++ back)
  behind : (∀ first, leading? back = some first → Path.isAbsolute first = false) →
    join (front ++ [join back]) = join (front ++ back)
  eq_empty_iff : join front = "" ↔ ∀ element ∈ front, element = ""
  fixed : join front ≠ "" → clean (join front) = join front
  rooted : Path.isAbsolute (join front) = (leading? front).any Path.isAbsolute
  /-- Empty elements may be put in or left out anywhere. -/
  spoken : ∀ other : List String, other.filter (· ≠ "") = front.filter (· ≠ "") →
    join other = join front

/-- **Joining flattens.** -/
theorem flattens (front back : List String) : Flattens front back where
  inFront := by
    apply join_congr
    rw [shape?_append, shape?_append, ← put_none_join front]
    rfl
  behind relative := by
    apply join_congr
    rw [shape?_append, shape?_append, List.foldl_cons, List.foldl_nil,
      put_join_of_relative relative]
  eq_empty_iff := by
    rw [← shape?_eq_none_iff, join_eq_elim]
    cases shape? front with
    | none => exact ⟨fun _ => rfl, fun _ => rfl⟩
    | some shape => exact ⟨fun empty => (shape.text_ne_empty empty).elim, nofun⟩
  fixed some_ := by
    rw [join_eq_elim] at some_ ⊢
    cases reached : shape? front with
    | none => exact (some_ (congrArg (Option.elim · "" Shape.text) reached)).elim
    | some shape => rw [Option.elim_some, Shape.clean_eq_text, Shape.of_text]
  rooted := by
    rw [← any_rooted_shape?, join_eq_elim]
    cases shape? front with
    | none => rfl
    | some shape => exact shape.isAbsolute_text
  spoken other same := by
    apply join_congr
    rw [← shape?_filter other, same, shape?_filter]

/-- Elements that go up first may be joined before: the parents are still there behind a base. -/
theorem flattens_parents :
    leading? ["", "../c", "d"] = some "../c" ∧
    join (["a/b"] ++ [join ["", "../c", "d"]]) = "a/c/d" := by
  have first : leading? ["", "../c", "d"] = some "../c" := by decide
  have relative : ∀ other, leading? ["", "../c", "d"] = some other →
      Path.isAbsolute other = false := by
    intro other found
    rw [first] at found
    cases found
    rfl
  refine ⟨first, ?_⟩
  rw [(flattens ["a/b"] ["", "../c", "d"]).behind relative]
  decide +kernel

/-- From the root there are no parents to go up to, so they are gone when the rest is joined. -/
example : join ["a", join ["/..", "b"]] = "a/b" ∧ join ["a", "/..", "b"] = "b" := by
  decide +kernel

end PipelineDepot.KeyPath
