import PipelineDepot.Proofs.Files.View

/-! # Walking a tree

A path means a place without looking at any tree: a name goes down, `..` goes to the parent and
`.` stays (`Place.follow`). A walk that succeeds goes through directories only, and ends where
the path means (`Walk.eq_of_travel`); when no file is in the way and every name is short, it
succeeds unless a directory is missing (`Walk.travel_cases`). The pieces `.` on the way play no
part (`Walk.travel_filter`), and a walk is not disturbed by any change that keeps directories
(`Walk.travel_of_kept`).
-/

namespace PipelineDepot.Files

namespace Place

/-- Where one piece of a path leads. -/
def step (place : Place) (piece : String) : Place :=
  if piece = "." then place
  else if piece = ".." then place.dropLast
  else place ++ [piece]

/-- Where the pieces of a path lead. -/
def follow (place : Place) (pieces : List String) : Place :=
  pieces.foldl step place

@[simp]
theorem follow_cons (place : Place) (piece : String) (rest : List String) :
    place.follow (piece :: rest) = (place.step piece).follow rest :=
  rfl

theorem follow_append (place : Place) (front back : List String) :
    place.follow (front ++ back) = (place.follow front).follow back :=
  List.foldl_append

@[simp]
theorem step_current (place : Place) : place.step "." = place := rfl

theorem step_name (place : Place) {name : String} (current : name ≠ ".") (parent : name ≠ "..") :
    place.step name = place ++ [name] := by
  simp only [step, current, parent, ↓reduceIte]

/-- Names that only go down are put at the end of a place. -/
theorem follow_names (place : Place) {names : List String}
    (plain : ∀ name ∈ names, name ≠ "." ∧ name ≠ "..") : place.follow names = place ++ names := by
  induction names generalizing place with
  | nil => exact (List.append_nil place).symm
  | cons name rest ih =>
      obtain ⟨head, tail⟩ := List.forall_mem_cons.mp plain
      rw [follow_cons, step_name place head.1 head.2, ih _ tail, List.append_assoc,
        List.singleton_append]

end Place

/-- The pieces that mean anything on the way. -/
abbrev meaningful (pieces : List String) : List String := pieces.filter (· ≠ ".")

theorem meaningful_concat (front : List String) {last : String} (moving : last ≠ ".") :
    meaningful (front ++ [last]) = meaningful front ++ [last] := by
  simp only [meaningful, List.filter_append, List.filter_cons, ne_eq, moving, not_false_eq_true,
    decide_true, ↓reduceIte, List.filter_nil]

/-- Pieces without meaning lead nowhere. -/
@[simp]
theorem Place.follow_meaningful (place : Place) (pieces : List String) :
    place.follow (meaningful pieces) = place.follow pieces := by
  induction pieces generalizing place with
  | nil => rfl
  | cons piece rest ih =>
      by_cases current : piece = "."
      · subst current
        simpa only [meaningful, List.filter_cons, ne_eq, not_true_eq_false, decide_false,
          Bool.false_eq_true, ↓reduceIte, follow_cons, step_current] using ih place
      · simp only [meaningful, List.filter_cons, ne_eq, current, not_false_eq_true, decide_true,
          ↓reduceIte, follow_cons]
        exact ih _

namespace Walk

open FileSystem

variable {top : Node}

/-- A name that a directory can have. -/
def Short (piece : String) : Prop := piece.utf8ByteSize ≤ maxName

instance : DecidablePred Short := fun _ => inferInstanceAs (Decidable (_ ≤ _))

/-- Enters one piece after the other. -/
def travel (top : Node) (place : Place) (pieces : List String) : Except FileError Place :=
  pieces.foldlM (enter top) place

@[simp]
theorem travel_nil (place : Place) : travel top place [] = .ok place := rfl

theorem travel_cons (place : Place) (piece : String) (rest : List String) :
    travel top place (piece :: rest) =
      match enter top place piece with
      | .error cause => .error cause
      | .ok next => travel top next rest := by
  simp only [travel, List.foldlM_cons]
  cases enter top place piece <;> rfl

@[simp]
theorem enter_current (place : Place) : enter top place "." = .ok place := rfl

/-- Entering a name goes by what stands where it leads. -/
theorem enter_name (place : Place) {piece : String} (current : piece ≠ ".")
    (parent : piece ≠ "..") :
    enter top place piece =
      if maxName < piece.utf8ByteSize then .error .nameTooLong
      else match top.look (place.step piece) with
        | none => .error .notFound
        | some (.file _) => .error .notADirectory
        | some .directory => .ok (place.step piece) := by
  rw [Place.step_name place current parent]
  simp only [enter, current, parent, ↓reduceIte, Node.look]
  split
  next => rfl
  next =>
    cases top.find? (place ++ [piece]) with
    | none => rfl
    | some node => cases node <;> rfl

/-- From a directory, `.` and `..` lead to a directory. -/
theorem enter_dots {place : Place} {piece : String} (stands : top.look place = some .directory)
    (dots : piece = "." ∨ piece = "..") :
    enter top place piece = .ok (place.step piece) ∧
      top.look (place.step piece) = some .directory := by
  rcases dots with rfl | rfl
  · exact ⟨rfl, stands⟩
  · exact ⟨rfl, Node.look_dropLast stands⟩

/-- Entering a piece succeeds where the piece leads to a directory. -/
theorem eq_of_enter {place next : Place} {piece : String}
    (stands : top.look place = some .directory) (entered : enter top place piece = .ok next) :
    next = place.step piece ∧ top.look next = some .directory := by
  by_cases dots : piece = "." ∨ piece = ".."
  · obtain ⟨reached, directory⟩ := enter_dots stands dots
    obtain rfl := Except.ok.inj (reached.symm.trans entered)
    exact ⟨rfl, directory⟩
  · obtain ⟨current, parent⟩ := not_or.mp dots
    rw [enter_name place current parent] at entered
    split at entered
    next => simp only [reduceCtorEq] at entered
    next =>
      cases found : top.look (place.step piece) with
      | none => simp only [found, reduceCtorEq] at entered
      | some opened =>
          cases opened with
          | file content => simp only [found, reduceCtorEq] at entered
          | directory =>
              simp only [found, Except.ok.injEq] at entered
              exact ⟨entered.symm, entered ▸ found⟩

/-- Entering a short piece that leads to no file succeeds, or the directory is missing. -/
theorem enter_cases {place : Place} {piece : String} (stands : top.look place = some .directory)
    (short : Short piece) (free : ∀ content, top.look (place.step piece) ≠ some (.file content)) :
    (enter top place piece = .ok (place.step piece) ∧
        top.look (place.step piece) = some .directory) ∨
      (enter top place piece = .error .notFound ∧ top.look (place.step piece) = none) := by
  by_cases dots : piece = "." ∨ piece = ".."
  · exact Or.inl (enter_dots stands dots)
  · obtain ⟨current, parent⟩ := not_or.mp dots
    simp only [enter_name place current parent, Nat.not_lt.mpr short, ↓reduceIte]
    cases found : top.look (place.step piece) with
    | none => exact Or.inr ⟨rfl, rfl⟩
    | some opened =>
        cases opened with
        | file content => exact absurd found (free content)
        | directory => exact Or.inl ⟨rfl, rfl⟩

/-- Entering a piece that succeeds still does where the directory has been kept. -/
theorem enter_of_kept {after : Node} {place next : Place} {piece : String}
    (kept : ∀ place, top.look place = some .directory → after.look place = some .directory)
    (stands : top.look place = some .directory) (entered : enter top place piece = .ok next) :
    enter after place piece = .ok next := by
  obtain ⟨rfl, onward⟩ := eq_of_enter stands entered
  by_cases dots : piece = "." ∨ piece = ".."
  · exact (enter_dots (kept place stands) dots).1
  · obtain ⟨current, parent⟩ := not_or.mp dots
    rw [enter_name place current parent] at entered ⊢
    split at entered
    next => simp only [reduceCtorEq] at entered
    next short => simp only [short, ↓reduceIte, kept _ onward]

/-- A walk that succeeds goes through directories to where the pieces lead. -/
theorem eq_of_travel {place next : Place} {pieces : List String}
    (stands : top.look place = some .directory) (travelled : travel top place pieces = .ok next) :
    next = place.follow pieces ∧
      ∀ front, front <+: pieces → top.look (place.follow front) = some .directory := by
  induction pieces generalizing place with
  | nil =>
      refine ⟨(Except.ok.inj travelled).symm, ?_⟩
      intro front leading
      rw [List.prefix_nil.mp leading]
      exact stands
  | cons piece rest ih =>
      rw [travel_cons] at travelled
      cases entered : enter top place piece with
      | error cause => simp only [entered, reduceCtorEq] at travelled
      | ok middle =>
          simp only [entered] at travelled
          obtain ⟨rfl, onward⟩ := eq_of_enter stands entered
          obtain ⟨arrived, passed⟩ := ih onward travelled
          refine ⟨arrived, ?_⟩
          intro front leading
          rcases List.prefix_cons_iff.mp leading with rfl | ⟨onto, rfl, deeper⟩
          · exact stands
          · exact passed onto deeper

/-- No name that is too long is ever entered. -/
theorem short_of_enter {place next : Place} {piece : String}
    (entered : enter top place piece = .ok next) : Short piece := by
  by_cases current : piece = "."
  · subst current
    decide
  by_cases parent : piece = ".."
  · subst parent
    decide
  rw [enter_name place current parent] at entered
  split at entered
  next => cases entered
  next short => exact Nat.not_lt.mp short

/-- A walk that succeeds has entered short pieces only. -/
theorem short_of_travel {place next : Place} {pieces : List String}
    (travelled : travel top place pieces = .ok next) : ∀ piece ∈ pieces, Short piece := by
  induction pieces generalizing place with
  | nil => exact fun _ member => (List.not_mem_nil member).elim
  | cons piece rest ih =>
      rw [travel_cons] at travelled
      cases entered : enter top place piece with
      | error cause => simp only [entered, reduceCtorEq] at travelled
      | ok middle =>
          simp only [entered] at travelled
          exact List.forall_mem_cons.mpr ⟨short_of_enter entered, ih travelled⟩

/-- When no file is in the way and the pieces are short, a walk succeeds through directories or
fails for want of one. -/
theorem travel_cases {place : Place} {pieces : List String}
    (stands : top.look place = some .directory) (short : ∀ piece ∈ pieces, Short piece)
    (free : ∀ front, front <+: pieces → ∀ content,
      top.look (place.follow front) ≠ some (.file content)) :
    (travel top place pieces = .ok (place.follow pieces) ∧
        ∀ front, front <+: pieces → top.look (place.follow front) = some .directory) ∨
      (travel top place pieces = .error .notFound ∧
        ∃ front, front <+: pieces ∧ top.look (place.follow front) = none) := by
  induction pieces generalizing place with
  | nil =>
      refine Or.inl ⟨rfl, ?_⟩
      intro front leading
      rw [List.prefix_nil.mp leading]
      exact stands
  | cons piece rest ih =>
      obtain ⟨here, later⟩ := List.forall_mem_cons.mp short
      have leads (front : List String) (leading : front <+: rest) :
          piece :: front <+: piece :: rest :=
        List.prefix_cons_iff.mpr (Or.inr ⟨front, rfl, leading⟩)
      rw [travel_cons]
      rcases enter_cases stands here (free [piece] (leads [] List.nil_prefix)) with
        ⟨entered, onward⟩ | ⟨missing, absent⟩
      · simp only [entered]
        rcases ih onward later (fun front leading => free _ (leads front leading)) with
          ⟨travelled, passed⟩ | ⟨failed, front, leading, absent⟩
        · refine Or.inl ⟨travelled, ?_⟩
          intro front leading
          rcases List.prefix_cons_iff.mp leading with rfl | ⟨onto, rfl, deeper⟩
          · exact stands
          · exact passed onto deeper
        · exact Or.inr ⟨failed, piece :: front, leads front leading, absent⟩
      · simp only [missing]
        exact Or.inr ⟨trivial, [piece], leads [] List.nil_prefix, absent⟩

/-- A walk through directories gets to where the pieces lead. -/
theorem travel_of_passed {place : Place} {pieces : List String}
    (short : ∀ piece ∈ pieces, Short piece)
    (passed : ∀ front, front <+: pieces → top.look (place.follow front) = some .directory) :
    travel top place pieces = .ok (place.follow pieces) := by
  have free : ∀ front, front <+: pieces → ∀ content,
      top.look (place.follow front) ≠ some (.file content) := by
    intro front leading content stands
    cases (passed front leading).symm.trans stands
  rcases travel_cases (passed [] List.nil_prefix) short free with
    ⟨travelled, -⟩ | ⟨-, front, leading, absent⟩
  · exact travelled
  · cases absent.symm.trans (passed front leading)

/-- A walk through directories stops at a file. -/
theorem travel_of_file {place : Place} {front rest : List String} {name : String}
    {content : Bytes} (short : ∀ piece ∈ front ++ name :: rest, Short piece)
    (passed : ∀ lead, lead <+: front → top.look (place.follow lead) = some .directory)
    (current : name ≠ ".") (parent : name ≠ "..")
    (stands : top.look (place.follow front ++ [name]) = some (.file content)) :
    travel top place (front ++ name :: rest) = .error .notADirectory := by
  obtain ⟨before, here⟩ := List.forall_mem_append.mp short
  have last : ¬ maxName < name.utf8ByteSize := Nat.not_lt.mpr (here name List.mem_cons_self)
  have reached : travel top place front = .ok (place.follow front) := travel_of_passed before passed
  have entered : enter top (place.follow front) name = .error .notADirectory := by
    simp only [enter_name _ current parent, last, ↓reduceIte,
      Place.step_name _ current parent, stands]
  have onward : travel top place (front ++ name :: rest) =
      (travel top place front).bind (travel top · (name :: rest)) := List.foldlM_append
  rw [onward, reached]
  exact (travel_cons _ name rest).trans (by rw [entered])

/-- The pieces that stay where they are play no part in a walk. -/
theorem travel_filter (place : Place) (pieces : List String) :
    travel top place (meaningful pieces) = travel top place pieces := by
  induction pieces generalizing place with
  | nil => rfl
  | cons piece rest ih =>
      by_cases current : piece = "."
      · subst current
        rw [travel_cons, enter_current]
        simpa only [meaningful, List.filter_cons, ne_eq, not_true_eq_false, decide_false,
          Bool.false_eq_true, ↓reduceIte] using ih place
      · simp only [meaningful, List.filter_cons, ne_eq, current, not_false_eq_true, decide_true,
          ↓reduceIte, travel_cons]
        cases enter top place piece with
        | error cause => rfl
        | ok next => exact ih next

/-- A walk that succeeds still does where every directory has been kept. -/
theorem travel_of_kept {after : Node} {place next : Place} {pieces : List String}
    (kept : ∀ place, top.look place = some .directory → after.look place = some .directory)
    (stands : top.look place = some .directory) (travelled : travel top place pieces = .ok next) :
    travel after place pieces = .ok next := by
  induction pieces generalizing place with
  | nil => exact travelled
  | cons piece rest ih =>
      rw [travel_cons] at travelled ⊢
      cases entered : enter top place piece with
      | error cause => simp only [entered, reduceCtorEq] at travelled
      | ok middle =>
          simp only [entered] at travelled
          simp only [enter_of_kept kept stands entered]
          exact ih (eq_of_enter stands entered).2 travelled

/-- What the last piece of a path asks for. -/
def aim (place : Place) (last : String) : Goal :=
  if last = "." then .reached place
  else if last = ".." then .reached place.dropLast
  else .entry place last

/-- A walk travels to the directory of its last piece and aims at it there. -/
theorem walk_concat (place : Place) (front : List String) (last : String) :
    walk top place (front ++ [last]) = (travel top place front).map (aim · last) := by
  induction front generalizing place with
  | nil =>
      simp only [List.nil_append, walk, travel_nil, Except.map, aim]
      split
      next => rfl
      next => split <;> rfl
  | cons piece rest ih =>
      rw [travel_cons]
      have unfolded : walk top place (piece :: rest ++ [last]) =
          match enter top place piece with
          | .error cause => .error cause
          | .ok next => walk top next (rest ++ [last]) := by
        cases rest <;> rfl
      rw [unfolded]
      cases enter top place piece with
      | error cause => rfl
      | ok next => exact ih next

/-- A walk looks at the pieces `.` only if one of them comes last. -/
theorem walk_filter (place : Place) {pieces : List String} {last : String}
    (ends : pieces.getLast? = some last) (moving : last ≠ ".") :
    walk top place pieces = walk top place (meaningful pieces) := by
  obtain ⟨front, rfl⟩ := List.getLast?_eq_some_iff.mp ends
  rw [meaningful_concat front moving, walk_concat, walk_concat, travel_filter]

end Walk

end PipelineDepot.Files
