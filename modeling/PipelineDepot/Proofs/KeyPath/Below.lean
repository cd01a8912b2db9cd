import PipelineDepot.Proofs.KeyPath.Shape

/-! # Paths behind a base

A path behind a slash is read as a relative one, whatever slashes it starts with
(`KeyPath.unrooted`). The shape of a base with a path behind it depends on the two shapes alone:
the parents of the path take back names of the base, further ones go up from it unless it starts
at the root, and the names of the path come last (`Shape.below`, `Shape.of_append_slash`).
-/

namespace PipelineDepot.KeyPath

open Files

/-- The path without the slashes in front. -/
def unrooted (path : String) : String :=
  String.ofList (path.toList.dropWhile (· = '/'))

namespace Shape

/-- Where a shape leads from a base. -/
def below (base child : Shape) : Shape where
  rooted := base.rooted
  climbs := if base.rooted then 0 else base.climbs + (child.climbs - base.names.length)
  names := base.names.take (base.names.length - child.climbs) ++ child.names
  stays rooted := if_pos rooted
  named := List.forall_mem_append.mpr
    ⟨fun name member => base.named name (List.mem_of_mem_take member), child.named⟩

variable (base : Shape) {child : Shape}

@[simp]
theorem below_rooted (child : Shape) : (base.below child).rooted = base.rooted := rfl

@[simp]
theorem below_names (child : Shape) : (base.below child).names =
    base.names.take (base.names.length - child.climbs) ++ child.names := rfl

theorem below_climbs (child : Shape) : (base.below child).climbs =
    if base.rooted then 0 else base.climbs + (child.climbs - base.names.length) := rfl

theorem climbs_eq_ite : base.climbs = if base.rooted then 0 else base.climbs := by
  split
  next rooted => exact base.stays rooted
  next => rfl

/-- A shape that goes up nowhere adds its names. -/
theorem below_of_climbs (inward : child.climbs = 0) :
    (base.below child).climbs = base.climbs ∧
      (base.below child).names = base.names ++ child.names := by
  constructor
  · rw [below_climbs, inward, Nat.zero_sub, Nat.add_zero, ← climbs_eq_ite]
  · rw [below_names, inward, Nat.sub_zero, List.take_length]

theorem below_still : base.below (still false) = base := by
  have inward : (still false).climbs = 0 := rfl
  obtain ⟨climbs, names⟩ := base.below_of_climbs inward
  exact Shape.ext rfl climbs (names.trans (List.append_nil _))

/-- The parent of where a relative shape leads is where its parent leads. -/
theorem below_leave (relative : child.rooted = false) :
    (base.below child).leave = base.below child.leave := by
  by_cases none_ : child.names = []
  · -- The parent takes back a name of the base, or goes up from it when none is left.
    have climbs : child.leave.climbs = child.climbs + 1 := if_pos ⟨none_, relative⟩
    apply Shape.ext
    · rfl
    · have left : (base.below child).names = [] ↔ base.names.length ≤ child.climbs := by
        rw [below_names, none_, List.append_nil, ← List.length_eq_zero_iff, List.length_take]
        omega
      simp only [leave_climbs, left, below_rooted, below_climbs, none_, relative]
      cases base.rooted with
      | true => simp only [Bool.true_eq_false, and_false, ↓reduceIte]
      | false =>
          simp only [and_self, and_true, Bool.false_eq_true, ↓reduceIte]
          split <;> omega
    · rw [leave_names, below_names, below_names, leave_names, climbs, none_, List.dropLast_nil,
        List.append_nil, List.append_nil, List.dropLast_eq_take, List.length_take, List.take_take]
      congr 1
      omega
  · have some_ : (base.below child).names ≠ [] := List.append_ne_nil_of_right_ne_nil _ none_
    have climbs := leave_climbs_of_names child none_
    apply Shape.ext
    · rfl
    · rw [leave_climbs_of_names _ some_, below_climbs, below_climbs, climbs]
    · rw [leave_names, below_names, below_names, leave_names, climbs,
        List.dropLast_append_of_ne_nil none_]

/-- **A segment changes where a relative shape leads as it changes the shape.** -/
theorem below_enter (relative : child.rooted = false) (piece : String) :
    (base.below child).enter piece = base.below (child.enter piece) := by
  unfold enter
  split
  · exact base.below_leave relative
  · split
    · exact Shape.ext rfl rfl (List.append_assoc _ _ _)
    · rfl

/-- Going on from a shape put below another is putting below what the shape goes on to. -/
theorem foldl_enter_below (relative : child.rooted = false) (parts : List String) :
    parts.foldl enter (base.below child) = base.below (parts.foldl enter child) := by
  induction parts generalizing child with
  | nil => rfl
  | cons piece rest ih =>
      rw [List.foldl_cons, List.foldl_cons, base.below_enter relative,
        ih ((rooted_enter _ _).trans relative)]

end Shape

theorem pieces_slash_cons (rest : List Char) :
    Path.pieces (String.ofList ('/' :: rest)) = "" :: Path.pieces (String.ofList rest) := by
  have text : String.ofList ('/' :: rest) = "" ++ "/" ++ String.ofList rest := by
    rw [String.empty_append, String.ofList_cons]
    rfl
  rw [text, Path.pieces_append_slash, Path.pieces_empty, List.singleton_append]

/-- Slashes in front are no steps. -/
theorem Shape.of_unrooted (path : String) :
    of (unrooted path) = (Path.pieces path).foldl enter (still false) := by
  have chars (text : List Char) : of (String.ofList (text.dropWhile (· = '/'))) =
      (Path.pieces (String.ofList text)).foldl enter (still false) := by
    induction text with
    | nil => rfl
    | cons letter rest ih =>
        by_cases slash : letter = '/'
        · subst slash
          have silent : ¬ Path.Means "" := by decide
          rw [List.dropWhile_cons_of_pos (by decide), ih, pieces_slash_cons, List.foldl_cons,
            enter_silent _ silent]
        · have relative : Path.isAbsolute (String.ofList (letter :: rest)) = false := by
            simp only [Path.isAbsolute, String.toList_ofList, List.head?_cons, beq_eq_false_iff_ne,
              ne_eq, Option.some.injEq, slash, not_false_eq_true]
          rw [List.dropWhile_cons_of_neg (by simpa only [decide_eq_true_eq] using slash), of,
            relative]
  rw [unrooted, chars, String.ofList_toList]

/-- A relative path is read as it is. -/
theorem Shape.of_unrooted_of_relative {path : String} (relative : Path.isAbsolute path = false) :
    of (unrooted path) = of path := by
  rw [of_unrooted, of, relative]

/-- A path that sets out from a base leads below it. -/
theorem Shape.foldl_enter_pieces_of (base : Shape) (path : String) :
    (Path.pieces path).foldl enter base = base.below (of (unrooted path)) := by
  rw [of_unrooted, ← foldl_enter_below _ rfl, below_still]

/-- Below a base, a path leads as it does below a relative shape alone. -/
theorem Shape.below_below (base : Shape) {child : Shape} (relative : child.rooted = false)
    (path : String) : (base.below child).below (of (unrooted path)) =
      base.below (child.below (of (unrooted path))) := by
  rw [← foldl_enter_pieces_of, ← foldl_enter_pieces_of, foldl_enter_below _ relative]

/-- **What a path behind a slash leads to, from the base in front of it.** -/
theorem Shape.of_append_slash {front : String} (some_ : front ≠ "") (path : String) :
    of (front ++ "/" ++ path) = (of front).below (of (unrooted path)) := by
  have rooted : Path.isAbsolute (front ++ "/" ++ path) = Path.isAbsolute front := by
    rw [String.append_assoc, Path.isAbsolute_append some_]
  rw [of, rooted, Path.pieces_append_slash, List.foldl_append, foldl_enter_pieces_of]
  rfl

end PipelineDepot.KeyPath
