import PipelineDepot.Proofs.JoinPath

/-! # The shape of a path

Cleaning loses nothing of a path but its spelling. What it keeps is a shape: whether the path
starts at the root, how many parents it goes up before anything else, and the names it then goes
down (`Shape`). The segments of a path change the shape one by one (`Shape.enter`), the stack
that cleaning works on is a view of it (`Shape.push_stack`), and the cleaned path spells it out
(`clean_eq_text`). A shape can be read back from its text (`Shape.of_text`), so different shapes
have different texts.
-/

namespace PipelineDepot

open Files

/-- A segment that goes down into a directory. -/
structure Files.Path.IsName (name : String) : Prop where
  bare : Path.Bare name
  means : Path.Means name
  inward : name ≠ ".."

instance : DecidablePred Path.Bare := fun _ => inferInstanceAs (Decidable (_ ∉ _))

instance : DecidablePred Path.IsName := fun name =>
  decidable_of_iff (Path.Bare name ∧ Path.Means name ∧ name ≠ "..")
    ⟨fun ⟨bare, means, inward⟩ => ⟨bare, means, inward⟩,
      fun ⟨bare, means, inward⟩ => ⟨bare, means, inward⟩⟩

namespace KeyPath

/-- What a path comes to: whether it starts at the root, how many parents it goes up, and the
names it then goes down. The root has no parent to go up to. -/
@[ext]
structure Shape where
  rooted : Bool
  climbs : Nat
  names : List String
  stays : rooted = true → climbs = 0
  named : ∀ name ∈ names, Path.IsName name

namespace Shape

/-- The path that goes nowhere. -/
def still (rooted : Bool) : Shape := ⟨rooted, 0, [], fun _ => rfl, nofun⟩

/-- Goes to the parent: back from the last name, or further up. -/
def leave (shape : Shape) : Shape where
  rooted := shape.rooted
  climbs := if shape.names = [] ∧ shape.rooted = false then shape.climbs + 1 else shape.climbs
  names := shape.names.dropLast
  stays rooted := by
    have top : ¬ (shape.names = [] ∧ shape.rooted = false) := fun free => nomatch rooted ▸ free.2
    rw [if_neg top, shape.stays rooted]
  named name member := shape.named name ((List.dropLast_sublist _).subset member)

/-- Goes down to a name. -/
def add (shape : Shape) (name : String) (isName : Path.IsName name) : Shape where
  rooted := shape.rooted
  climbs := shape.climbs
  names := shape.names ++ [name]
  stays := shape.stays
  named := List.forall_mem_append.mpr ⟨shape.named, List.forall_mem_singleton.mpr isName⟩

/-- Goes where one segment leads; an empty one and a dot stay. -/
def enter (shape : Shape) (piece : String) : Shape :=
  if piece = ".." then shape.leave
  else if isName : Path.IsName piece then shape.add piece isName
  else shape

/-- The shape of a path. -/
def of (path : String) : Shape :=
  (Path.pieces path).foldl enter (still (Path.isAbsolute path))

/-- The segments that spell out a shape. -/
def pieces (shape : Shape) : List String :=
  List.replicate shape.climbs ".." ++ shape.names

/-- The normal form of all paths of a shape. -/
def text (shape : Shape) : String :=
  if shape.rooted then "/" ++ "/".intercalate shape.pieces
  else if shape.pieces = [] then "."
  else "/".intercalate shape.pieces

variable (shape : Shape)

@[simp]
theorem leave_names : shape.leave.names = shape.names.dropLast := rfl

theorem leave_climbs : shape.leave.climbs =
    if shape.names = [] ∧ shape.rooted = false then shape.climbs + 1 else shape.climbs := rfl

@[simp]
theorem add_names {name : String} (isName : Path.IsName name) :
    (shape.add name isName).names = shape.names ++ [name] := rfl

@[simp]
theorem add_climbs {name : String} (isName : Path.IsName name) :
    (shape.add name isName).climbs = shape.climbs := rfl

@[simp]
theorem pieces_add {name : String} (isName : Path.IsName name) :
    (shape.add name isName).pieces = shape.pieces ++ [name] := by
  rw [pieces, add_names, add_climbs, ← List.append_assoc, pieces]

/-- With a name left to go back from, the parents stay as they are. -/
theorem leave_climbs_of_names (some_ : shape.names ≠ []) : shape.leave.climbs = shape.climbs :=
  if_neg fun none_ => some_ none_.1

theorem enter_parent : shape.enter ".." = shape.leave := rfl

theorem enter_name {name : String} (isName : Path.IsName name) :
    shape.enter name = shape.add name isName := by
  simp only [enter, isName.inward, isName, ↓reduceIte, ↓reduceDIte]

theorem enter_silent {piece : String} (silent : ¬ Path.Means piece) :
    shape.enter piece = shape := by
  have moves : piece ≠ ".." := by
    rintro rfl
    exact silent (by decide)
  have unnamed : ¬ Path.IsName piece := fun isName => silent isName.means
  simp only [enter, moves, unnamed, ↓reduceIte, ↓reduceDIte]

@[simp]
theorem rooted_enter (piece : String) : (shape.enter piece).rooted = shape.rooted := by
  unfold enter
  split
  · rfl
  · split <;> rfl

@[simp]
theorem rooted_foldl_enter (pieces : List String) :
    (pieces.foldl enter shape).rooted = shape.rooted := by
  induction pieces generalizing shape with
  | nil => rfl
  | cons piece rest ih => rw [List.foldl_cons, ih, rooted_enter]

@[simp]
theorem rooted_of (path : String) : (of path).rooted = Path.isAbsolute path :=
  rooted_foldl_enter _ _

/-- A piece of a path goes nowhere, to the parent or down to a name. -/
theorem piece_cases {piece : String} (bare : Path.Bare piece) :
    ¬ Path.Means piece ∨ piece = ".." ∨ Path.IsName piece := by
  by_cases means : Path.Means piece
  · by_cases parent : piece = ".."
    · exact Or.inr (Or.inl parent)
    · exact Or.inr (Or.inr ⟨bare, means, parent⟩)
  · exact Or.inl means

/-! ## Cleaning -/

/-- The stack of segments that cleaning keeps for the shape, the innermost first. -/
def stack : List Segment := (shape.pieces.map String.toList).reverse

theorem stack_of_names_eq_nil (none_ : shape.names = []) :
    shape.stack = List.replicate shape.climbs up := by
  rw [stack, pieces, none_, List.append_nil, List.map_replicate, List.reverse_replicate]
  rfl

theorem stack_of_names_eq_concat {front : List String} {last : String}
    (split : shape.names = front ++ [last]) :
    shape.stack = last.toList :: shape.leave.stack := by
  have some_ : shape.names ≠ [] :=
    split ▸ List.append_ne_nil_of_right_ne_nil front (List.cons_ne_nil last [])
  have kept : shape.leave.pieces = List.replicate shape.climbs ".." ++ front := by
    rw [pieces, leave_climbs_of_names _ some_, leave_names, split, List.dropLast_concat]
  rw [stack, stack, kept, pieces, split, ← List.append_assoc, List.map_append, List.reverse_append]
  rfl

theorem push_up (rooted : Bool) (kept : List Segment) :
    push rooted kept up =
      match kept with
      | [] => if rooted then [] else [up]
      | top :: below => if top = up then up :: top :: below else below := by
  have moves : ¬ (up = [] ∨ up = here) := by decide
  exact (if_neg moves).trans (if_pos rfl)

/-- Going to the parent drops a name from the stack, or adds a parent where none is left. -/
theorem push_stack_parent : push shape.rooted shape.stack up = shape.leave.stack := by
  rw [push_up]
  rcases List.eq_nil_or_concat shape.names with none_ | ⟨front, last, split⟩
  · have after : shape.leave.names = [] := by
      rw [leave_names, none_, List.dropLast_nil]
    rw [stack_of_names_eq_nil _ none_, stack_of_names_eq_nil _ after]
    cases climbs : shape.climbs with
    | zero => cases rooted : shape.rooted <;> simp [leave_climbs, none_, rooted, climbs]
    | succ count =>
        have free : shape.rooted = false := by
          apply Bool.eq_false_iff.mpr
          intro rooted
          exact Nat.succ_ne_zero count (climbs.symm.trans (shape.stays rooted))
        simp [leave_climbs, none_, free, climbs, List.replicate_succ]
  · rw [List.concat_eq_append] at split
    have member : last ∈ shape.names := split ▸ List.mem_append_right front List.mem_cons_self
    have goes : last.toList ≠ up :=
      fun same => (shape.named last member).inward (String.toList_inj.mp same)
    simp only [shape.stack_of_names_eq_concat split, goes, ↓reduceIte]

/-- **A segment changes the stack as it changes the shape.** -/
theorem push_stack {piece : String} (bare : Path.Bare piece) :
    push shape.rooted shape.stack piece.toList = (shape.enter piece).stack := by
  rcases piece_cases bare with silent | rfl | isName
  · have stays : piece.toList = [] ∨ piece.toList = here := by
      rcases Decidable.not_and_iff_not_or_not.mp silent with empty | dot
      · exact Or.inl (String.toList_eq_nil_iff.mpr (Decidable.not_not.mp empty))
      · exact Or.inr (congrArg String.toList (Decidable.not_not.mp dot))
    rw [enter_silent _ silent]
    unfold push
    rw [if_pos stays]
  · exact shape.push_stack_parent
  · have moves : ¬ (piece.toList = [] ∨ piece.toList = here) := by
      rintro (empty | dot)
      · exact isName.means.1 (String.toList_eq_nil_iff.mp empty)
      · exact isName.means.2 (String.toList_inj.mp dot)
    have goes : piece.toList ≠ up := fun same => isName.inward (String.toList_inj.mp same)
    unfold push
    rw [if_neg moves, if_neg goes, enter_name _ isName, stack, stack, pieces_add, List.map_append,
      List.reverse_append]
    rfl

/-- Cleaning follows the shape of a path segment by segment. -/
theorem foldl_push_stack {parts : List String} (bare : ∀ piece ∈ parts, Path.Bare piece) :
    (parts.map String.toList).foldl (push shape.rooted) shape.stack =
      (parts.foldl enter shape).stack := by
  induction parts generalizing shape with
  | nil => rfl
  | cons piece rest ih =>
      obtain ⟨here, later⟩ := List.forall_mem_cons.mp bare
      rw [List.map_cons, List.foldl_cons, List.foldl_cons, shape.push_stack here,
        ← shape.rooted_enter piece, ih _ later]

/-- Cleaning keeps the segments that spell out the shape. -/
theorem keptSegments_eq (path : String) :
    keptSegments path.toList = (of path).pieces.map String.toList := by
  have bare : ∀ piece ∈ Path.pieces path, Path.Bare piece := fun _ => Path.bare_of_mem_pieces
  have kept := (still (Path.isAbsolute path)).foldl_push_stack bare
  rw [keptSegments, segments_toList]
  exact (congrArg List.reverse kept).trans (List.reverse_reverse _)

/-- The text of a shape is what its segments are rendered to. -/
theorem text_eq_render :
    shape.text = String.ofList (render shape.rooted (shape.pieces.map String.toList)) := by
  apply String.toList_inj.mp
  rw [String.toList_ofList, render, text]
  split
  · rw [String.toList_append, String.toList_intercalate]
    rfl
  · simp only [List.map_eq_nil_iff]
    split
    · rfl
    · rw [String.toList_intercalate]
      rfl

/-- **Cleaning spells out the shape of a path.** -/
theorem clean_eq_text (path : String) : clean path = (of path).text := by
  have same : isRooted path.toList = (of path).rooted := (rooted_of path).symm
  rw [clean, cleanChars, same, keptSegments_eq, text_eq_render]

/-! ## Reading a shape back -/

/-- Each segment that spells out a shape means a step. -/
theorem names_of_mem_pieces {segment : Segment}
    (member : segment ∈ shape.pieces.map String.toList) : Names segment := by
  obtain ⟨piece, inside, rfl⟩ := List.mem_map.mp member
  rcases List.mem_append.mp inside with parent | named
  · rw [List.eq_of_mem_replicate parent]
    exact ⟨by decide, by decide, by decide⟩
  · obtain ⟨bare, ⟨some_, moves⟩, -⟩ := shape.named piece named
    exact ⟨bare, String.toList_eq_nil_iff.not.mpr some_,
      fun dot => moves (String.toList_inj.mp dot)⟩

@[simp]
theorem isAbsolute_text : Path.isAbsolute shape.text = shape.rooted := by
  rw [text_eq_render]
  exact isAbsolute_render _ fun _ => shape.names_of_mem_pieces

/-- The names in the text of a shape are its pieces. -/
@[simp]
theorem names_text : Path.names shape.text = shape.pieces := by
  rw [text_eq_render, names_render _ fun _ => shape.names_of_mem_pieces, map_ofList_toList]

/-- Only the names of a path count. -/
theorem foldl_enter_filter (parts : List String) :
    (parts.filter Path.Means).foldl enter shape = parts.foldl enter shape := by
  induction parts generalizing shape with
  | nil => rfl
  | cons piece rest ih =>
      rw [List.filter_cons, List.foldl_cons, ← ih]
      by_cases means : Path.Means piece
      · rw [if_pos (decide_eq_true means), List.foldl_cons]
      · rw [if_neg (by simpa only [decide_eq_true_eq] using means), enter_silent _ means]

theorem of_eq (path : String) :
    of path = (Path.names path).foldl enter (still (Path.isAbsolute path)) :=
  (foldl_enter_filter _ _).symm

/-- Going to the parent again and again goes up, unless it starts at the root. -/
theorem foldl_enter_parents {rooted : Bool} {count : Nat} (stays : rooted = true → count = 0) :
    ((List.replicate count "..").foldl enter (still rooted)).names = [] ∧
      ((List.replicate count "..").foldl enter (still rooted)).climbs = count := by
  cases rooted with
  | true =>
      obtain rfl := stays rfl
      exact ⟨rfl, rfl⟩
  | false =>
      induction count with
      | zero => exact ⟨rfl, rfl⟩
      | succ count ih =>
          obtain ⟨names_eq, climbs_eq⟩ := ih nofun
          have free := rooted_foldl_enter (still false) (List.replicate count "..")
          rw [List.replicate_succ', List.foldl_append, List.foldl_cons, List.foldl_nil,
            enter_parent, leave_names, leave_climbs, names_eq, climbs_eq, if_pos ⟨rfl, free⟩]
          exact ⟨rfl, rfl⟩

/-- Names are added one behind the other. -/
theorem foldl_enter_names {names : List String} (named : ∀ name ∈ names, Path.IsName name) :
    (names.foldl enter shape).names = shape.names ++ names ∧
      (names.foldl enter shape).climbs = shape.climbs := by
  induction names generalizing shape with
  | nil => exact ⟨(List.append_nil _).symm, rfl⟩
  | cons name rest ih =>
      obtain ⟨here, later⟩ := List.forall_mem_cons.mp named
      obtain ⟨names_eq, climbs_eq⟩ := ih (shape.enter name) later
      rw [List.foldl_cons, names_eq, climbs_eq, enter_name _ here, add_names, List.append_assoc]
      exact ⟨rfl, rfl⟩

/-- The segments that spell out a shape lead to it. -/
theorem foldl_enter_pieces : shape.pieces.foldl enter (still shape.rooted) = shape := by
  obtain ⟨nameless, climbs⟩ := foldl_enter_parents shape.stays
  obtain ⟨names_eq, climbs_eq⟩ := foldl_enter_names
    ((List.replicate shape.climbs "..").foldl enter (still shape.rooted)) shape.named
  rw [pieces, List.foldl_append]
  apply Shape.ext
  · rw [rooted_foldl_enter, rooted_foldl_enter]
    rfl
  · exact climbs_eq.trans climbs
  · rw [names_eq, nameless, List.nil_append]

/-- **A shape is the shape of its text.** -/
@[simp]
theorem of_text : of shape.text = shape := by
  rw [of_eq, names_text, isAbsolute_text, foldl_enter_pieces]

/-- Different shapes have different texts. -/
theorem text_inj {first second : Shape} : first.text = second.text ↔ first = second :=
  ⟨fun same => by rw [← of_text first, same, of_text], congrArg text⟩

theorem text_ne_empty : shape.text ≠ "" := by
  intro empty
  have same : shape = of "" := by rw [← empty, of_text]
  rw [same] at empty
  exact absurd empty (by decide)

end Shape

/-- Two paths have the same clean spelling exactly when they have the same shape. -/
theorem clean_eq_clean_iff_of (first second : String) :
    clean first = clean second ↔ Shape.of first = Shape.of second := by
  rw [Shape.clean_eq_text, Shape.clean_eq_text, Shape.text_inj]

end KeyPath

end PipelineDepot
