import PipelineDepot.Proofs.Files.Names

/-! # Parents of paths

The parent of a path is worked out on the text: silent pieces at the end go, then the last piece,
then the silent pieces before it. What is left has all names of the path but the last, starts
where the path starts, and ends in a name if it has any (`Path.parent?_parentOf`). Every path
among the parents of a path therefore has a front of its names
(`Path.prefix_of_mem_ancestorsUpTo`).
-/

namespace PipelineDepot.Files.Path

/-- Only silent pieces are dropped, and dropping stops at a name or at the first piece. -/
theorem dropSilent_split (absolute : Bool) (pieces : List String) :
    ∃ silent, pieces = silent ++ dropSilent absolute pieces ∧
      (∀ piece ∈ silent, ¬ Means piece) ∧
      ∀ head next rest, dropSilent absolute pieces = head :: next :: rest → Means head := by
  fun_induction dropSilent absolute pieces with
  | case1 =>
      refine ⟨[], rfl, fun _ member => (List.not_mem_nil member).elim, ?_⟩
      intro head next later same
      cases same
  | case2 first empty =>
      refine ⟨[first], rfl, ?_, ?_⟩
      · intro piece member means
        rw [List.mem_singleton.mp member] at means
        exact means.1 empty.1
      · intro head next later same
        cases same
  | case3 first kept =>
      refine ⟨[], rfl, fun _ member => (List.not_mem_nil member).elim, ?_⟩
      intro head next later same
      cases same
  | case4 piece rest _ stands ih =>
      obtain ⟨silent, split, quiet, stop⟩ := ih
      refine ⟨piece :: silent, congrArg (piece :: ·) split, ?_, stop⟩
      intro other member
      rcases List.mem_cons.mp member with rfl | later
      · exact (laterComponent?_eq_none_iff other).mp stands
      · exact quiet other later
  | case5 piece rest _ stands =>
      refine ⟨[], rfl, fun _ member => (List.not_mem_nil member).elim, ?_⟩
      intro head next later same
      rw [← (List.cons.inj same).1]
      exact Decidable.not_not.mp ((laterComponent?_eq_none_iff piece).not.mp stands)

/-- The texts that the parent of a path can be, given the pieces it keeps. -/
inductive Keeps (path : String) : List String → String → Prop
  | nothing : isAbsolute path = false → Keeps path [] ""
  | root : isAbsolute path = true → Keeps path [""] "/"
  /-- Pieces are left, more than one if the path starts at the root. -/
  | some (kept : List String) : kept ≠ [] → (isAbsolute path = true → 2 ≤ kept.length) →
      (kept.filter Means ≠ [] → ∃ last, kept.getLast? = .some last ∧ Means last) →
      Keeps path kept ("/".intercalate kept)

/-- What is left in front of the last name makes up the parent. -/
private theorem keeps_of_parent? {path parent last : String} {rest tail : List String}
    (found : parent? path = some parent)
    (ending : dropSilent (isAbsolute path) (pieces path).reverse = last :: rest)
    (whole : pieces path = (dropSilent (isAbsolute path) rest).reverse ++ tail)
    (halt : ∀ head next others,
      dropSilent (isAbsolute path) rest = head :: next :: others → Means head) :
    Keeps path (dropSilent (isAbsolute path) rest).reverse parent := by
  unfold parent? at found
  simp only [ending] at found
  cases left : dropSilent (isAbsolute path) rest with
  | nil =>
      simp only [left, Option.ite_none_left_eq_some, Bool.not_eq_true, Option.some.injEq] at found
      obtain ⟨relative, rfl⟩ := found
      exact .nothing relative
  | cons first others =>
      rw [left] at whole halt found
      cases others with
      | nil =>
          simp only [Option.some.injEq] at found
          split at found
          next root =>
            obtain ⟨absolute, rfl⟩ := root
            exact found ▸ .root absolute
          next named =>
            have single : "/".intercalate [first] = first := rfl
            rw [List.reverse_singleton, ← found, ← single]
            apply Keeps.some [first] (List.cons_ne_nil _ _)
            · intro absolute
              obtain ⟨_, _, start⟩ := (isAbsolute_iff path).mp absolute
              rw [whole] at start
              exact (named ⟨absolute, (List.cons.inj start).1⟩).elim
            · intro kept
              refine ⟨first, rfl, ?_⟩
              by_contra silent
              exact kept (filter_means_eq_nil (List.forall_mem_singleton.mpr silent))
      | cons second others =>
          simp only [Option.some.injEq] at found
          rw [← found]
          apply Keeps.some
          · exact List.reverse_eq_nil_iff.not.mpr (List.cons_ne_nil _ _)
          · intro _
            simp only [List.length_reverse, List.length_cons]
            omega
          · intro _
            refine ⟨first, ?_, halt _ _ _ rfl⟩
            rw [List.getLast?_reverse]
            rfl

/-- The parent of a path keeps its pieces up to the last name. -/
theorem parent?_split {path parent : String} (found : parent? path = some parent) :
    ∃ kept tail last, pieces path = kept ++ tail ∧ Keeps path kept parent ∧
      tail.filter Means = [last].filter Means ∧ (kept = [] ∨ Means last) ∧ tail ≠ [] := by
  obtain ⟨silent, split, quiet, stop⟩ := dropSilent_split (isAbsolute path) (pieces path).reverse
  cases ending : dropSilent (isAbsolute path) (pieces path).reverse with
  | nil =>
      unfold parent? at found
      simp only [ending, reduceCtorEq] at found
  | cons last rest =>
      rw [ending] at split stop
      obtain ⟨between, parted, still, halt⟩ := dropSilent_split (isAbsolute path) rest
      have whole : pieces path = (dropSilent (isAbsolute path) rest).reverse ++
          (between.reverse ++ last :: silent.reverse) := by
        have reversed := congrArg List.reverse split
        rw [List.reverse_reverse, parted] at reversed
        simpa only [List.reverse_append, List.reverse_cons, List.append_assoc, List.cons_append,
          List.nil_append] using reversed
      have behind : (between.reverse ++ last :: silent.reverse).filter Means =
          [last].filter Means := by
        rw [List.filter_append, List.filter_cons, List.filter_reverse, List.filter_reverse,
          filter_means_eq_nil still, filter_means_eq_nil quiet, List.filter_cons]
        rfl
      have some_ : between.reverse ++ last :: silent.reverse ≠ [] :=
        List.append_ne_nil_of_right_ne_nil _ (List.cons_ne_nil _ _)
      refine ⟨_, _, last, whole, keeps_of_parent? found ending whole halt, behind, ?_, some_⟩
      cases rest with
      | nil => exact Or.inl rfl
      | cons next others => exact Or.inr (stop last next others rfl)

/-- What the parent of a path has in common with it. -/
structure ParentOf (path parent : String) : Prop where
  names_eq : names parent = (names path).dropLast
  isAbsolute_eq : isAbsolute parent = isAbsolute path
  /-- Its text is the front of the path, and shorter. -/
  leads : ∃ rest, rest ≠ "" ∧ path = parent ++ rest
  /-- If it has any names, it ends in one. -/
  trimmed : names parent ≠ [] → EndsInName parent

/-- The pieces a parent keeps are the front of those of the path. -/
private theorem Keeps.bare {path parent : String} {kept tail : List String}
    (split : pieces path = kept ++ tail) (_ : Keeps path kept parent) :
    ∀ piece ∈ kept, Bare piece := by
  intro piece member
  exact bare_of_mem_pieces (split ▸ List.mem_append_left tail member)

/-- A parent keeps the names in front of the ones that are taken away. -/
theorem Keeps.names_eq {path parent : String} {kept tail : List String}
    (split : pieces path = kept ++ tail) (keeps : Keeps path kept parent) :
    names parent = kept.filter Means := by
  have bare := keeps.bare split
  cases keeps with
  | nothing => exact names_empty
  | root => decide
  | some kept some_ => rw [names, pieces_intercalate bare some_]

theorem Keeps.isAbsolute_eq {path parent : String} {kept tail : List String}
    (split : pieces path = kept ++ tail) (keeps : Keeps path kept parent) :
    isAbsolute parent = isAbsolute path := by
  have bare := keeps.bare split
  cases keeps with
  | nothing relative => exact relative.symm
  | root absolute => exact absolute.symm
  | some kept some_ long =>
      rw [Bool.eq_iff_iff, isAbsolute_iff, isAbsolute_iff, pieces_intercalate bare some_, split]
      constructor
      · rintro ⟨rest, left, rfl⟩
        exact ⟨rest ++ tail, List.append_ne_nil_of_left_ne_nil left tail, rfl⟩
      · rintro ⟨rest, left, parts⟩
        have enough := long ((isAbsolute_iff path).mpr ⟨rest, left, split.trans parts⟩)
        obtain ⟨first, others, rfl⟩ := List.exists_cons_of_ne_nil some_
        obtain ⟨rfl, -⟩ := List.cons.inj parts
        refine ⟨others, ?_, rfl⟩
        rintro rfl
        simp at enough

/-- A parent is the front of the text. What is behind it starts with a slash, unless the parent
is empty or the root. -/
theorem Keeps.leads {path parent : String} {kept tail : List String}
    (split : pieces path = kept ++ tail) (keeps : Keeps path kept parent) (some_ : path ≠ "")
    (left : tail ≠ []) (moves : kept ≠ [] → tail.filter Means ≠ []) :
    ∃ rest, rest ≠ "" ∧ path = parent ++ rest := by
  have text := (intercalate_pieces path).symm
  rw [split] at text
  cases keeps with
  | nothing => exact ⟨path, some_, (String.empty_append).symm⟩
  | root =>
      rw [String.intercalate_append_of_ne_nil (List.cons_ne_nil _ _) left] at text
      refine ⟨"/".intercalate tail, ?_, text⟩
      intro empty
      have bare : ∀ piece ∈ tail, Bare piece := by
        intro piece member
        exact bare_of_mem_pieces (split ▸ List.mem_append_right [""] member)
      have parts := pieces_intercalate bare left
      rw [empty, pieces_empty] at parts
      exact moves (List.cons_ne_nil _ _) (parts ▸ rfl)
  | some kept stays =>
      rw [String.intercalate_append_of_ne_nil stays left, String.append_assoc] at text
      refine ⟨_, ?_, text⟩
      intro empty
      have slash := (String.append_eq_empty_iff.mp empty).1
      exact absurd slash (by decide)

/-- **The parent of a path has all its names but the last.** -/
theorem parent?_parentOf {path parent : String} (found : parent? path = some parent) :
    ParentOf path parent := by
  obtain ⟨kept, tail, last, split, keeps, behind, ends, left⟩ := parent?_split found
  have same := keeps.names_eq split
  constructor
  case names_eq =>
    have whole : names path = kept.filter Means ++ [last].filter Means := by
      rw [names, split, List.filter_append, behind]
    rw [same, whole]
    by_cases means : Means last
    · rw [filter_means_singleton means, List.dropLast_concat]
    · have quiet := filter_means_eq_nil (List.forall_mem_singleton.mpr means)
      rw [quiet, List.append_nil, ends.resolve_right means]
      rfl
  case isAbsolute_eq => exact keeps.isAbsolute_eq split
  case leads =>
    apply keeps.leads split _ left
    · intro some_
      rw [behind, filter_means_singleton (ends.resolve_left some_)]
      exact List.cons_ne_nil _ _
    · rintro rfl
      cases found
  case trimmed =>
    intro named
    rw [same] at named
    have bare := keeps.bare split
    cases keeps with
    | nothing => exact (named rfl).elim
    | root => exact (named (by decide)).elim
    | some kept some_ _ trimmed =>
        rw [EndsInName, pieces_intercalate bare some_]
        exact trimmed named

/-- Dropping from a path at the root always leaves the first piece. -/
theorem dropSilent_eq_nil {pieces : List String} (nothing : dropSilent true pieces = []) :
    pieces = [] := by
  fun_induction dropSilent true pieces with
  | case1 => rfl
  | case2 first empty => cases empty.2
  | case3 => cases nothing
  | case4 piece rest more _ ih => exact (more (ih nothing)).elim
  | case5 => cases nothing

/-- Only a path without names has no parent. -/
theorem names_eq_nil_of_parent? {path : String} (none_ : parent? path = none) :
    names path = [] := by
  obtain ⟨silent, split, quiet, -⟩ := dropSilent_split (isAbsolute path) (pieces path).reverse
  have parted := congrArg List.reverse split
  rw [List.reverse_reverse, List.reverse_append] at parted
  unfold parent? at none_
  cases ending : dropSilent (isAbsolute path) (pieces path).reverse with
  | nil =>
      rw [ending] at parted
      rw [names, parted, List.reverse_nil, List.nil_append, List.filter_reverse,
        filter_means_eq_nil quiet]
      rfl
  | cons last rest =>
      simp only [ending] at none_
      cases left : dropSilent (isAbsolute path) rest with
      | cons first others => cases others <;> simp [left] at none_
      | nil =>
          simp only [left, ite_eq_left_iff, Bool.not_eq_true, reduceCtorEq, imp_false,
            Bool.not_eq_false] at none_
          obtain rfl := dropSilent_eq_nil (none_ ▸ left)
          obtain ⟨_, _, start⟩ := (isAbsolute_iff path).mp none_
          rw [ending, List.reverse_singleton] at parted
          obtain ⟨rfl, -⟩ := List.cons.inj (parted.symm.trans start)
          rw [names, parted, List.singleton_append, List.filter_cons, List.filter_reverse,
            filter_means_eq_nil quiet]
          rfl

/-- Every path among the parents has a front of the names and starts where the path starts. -/
theorem prefix_of_mem_ancestorsUpTo {limit : Nat} {path member : String}
    (listed : member ∈ ancestorsUpTo limit path) :
    names member <+: names path ∧ isAbsolute member = isAbsolute path := by
  induction limit generalizing path with
  | zero => exact (List.not_mem_nil listed).elim
  | succ limit ih =>
      rw [ancestorsUpTo] at listed
      split at listed
      next => exact (List.not_mem_nil listed).elim
      next =>
        cases found : parent? path with
        | none => exact (List.not_mem_nil (found ▸ listed)).elim
        | some parent =>
            rw [found] at listed
            have related := parent?_parentOf found
            rcases List.mem_cons.mp listed with rfl | above
            · exact ⟨List.prefix_rfl, rfl⟩
            · obtain ⟨leading, rooted⟩ := ih above
              refine ⟨leading.trans ?_, rooted.trans related.isAbsolute_eq⟩
              rw [related.names_eq]
              exact List.dropLast_prefix _

end PipelineDepot.Files.Path
