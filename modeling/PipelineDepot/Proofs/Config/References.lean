import Mathlib.Data.List.DropRight
import PipelineDepot.Proofs.Config.Substitution

/-! # The one way to cut a text at its references

A text is cut at its references when the pieces make it up, no gap between references holds
another one, and each reference starts as far left as one can behind the one before it (`Splits`).
There is one way to do so, and it depends on the text alone (`splits_iff`). An environment only
puts values in the places of the references, and since the cut is made before, no value is looked
at again.

A text that leaves no reference open is cut for itself, whatever follows (`fill_append_of_closed`).
-/

namespace PipelineDepot.Config

/-- A reference can start at the head of the text. -/
def Starts (text : List Char) : Prop := ∃ name, IsName name ∧ referenceText name <+: text

/-- The text that pieces were cut from. -/
def Pieces.text (pieces : Pieces) : List Char :=
  pieces.lead ++ pieces.references.flatMap fun (name, behind) => referenceText name ++ behind

/-- What stands before, between and behind the references. -/
def Pieces.gaps (pieces : Pieces) : List (List Char) :=
  pieces.lead :: pieces.references.map fun (_, behind) => behind

/-- Each reference starts at the leftmost place where one can, from the start of the gap before
it. -/
def Leftmost (gap : List Char) : List (List Char × List Char) → Prop
  | [] => True
  | (name, behind) :: later =>
    (∀ place < gap.length, ¬ Starts ((Pieces.text ⟨gap, (name, behind) :: later⟩).drop place)) ∧
      Leftmost behind later

/-- The pieces are the text, cut at its references from left to right. -/
structure Splits (text : List Char) (pieces : Pieces) : Prop where
  whole : pieces.text = text
  named : ∀ reference ∈ pieces.references, IsName reference.1
  bare : ∀ gap ∈ pieces.gaps, ∀ name, IsName name → ¬ referenceText name <:+: gap
  leftmost : Leftmost pieces.lead pieces.references

theorem referenceText_ne_nil (name : List Char) : referenceText name ≠ [] :=
  List.cons_ne_nil _ _

/-- There is no reference at the head exactly when none can start there. -/
theorem reference?_eq_none_iff {text : List Char} : reference? text = none ↔ ¬ Starts text := by
  rw [Option.eq_none_iff_forall_ne_some]
  constructor
  · rintro absent ⟨name, named, rest, rfl⟩
    exact absent (name, rest) (reference?_referenceText named rest)
  · rintro absent ⟨name, rest⟩ found
    obtain ⟨named, rfl⟩ := reference?_eq_some_iff.mp found
    exact absent ⟨name, named, List.prefix_append _ _⟩

@[simp]
theorem Pieces.text_cons (c : Char) (lead : List Char)
    (references : List (List Char × List Char)) :
    text ⟨c :: lead, references⟩ = c :: text ⟨lead, references⟩ := rfl

@[simp]
theorem Pieces.text_reference (name behind : List Char)
    (later : List (List Char × List Char)) :
    text ⟨[], (name, behind) :: later⟩ = referenceText name ++ text ⟨behind, later⟩ := by
  simp only [text, List.nil_append, List.flatMap_cons, List.append_assoc]

@[simp]
theorem Pieces.text_end (lead : List Char) : text ⟨lead, []⟩ = lead := List.append_nil lead

namespace Splits

variable {c : Char} {name behind lead rest text : List Char}
  {later : List (List Char × List Char)} {cut : Pieces}

/-! ## Cutting -/

theorem nil : Splits [] ⟨[], []⟩ where
  whole := rfl
  named := nofun
  bare gap member name _ inside := by
    rw [List.mem_singleton.mp member] at inside
    exact referenceText_ne_nil name (List.infix_nil.mp inside)
  leftmost := trivial

/-- A reference in front of a cut text is cut off first. -/
theorem reference (splits : Splits text cut) (named : IsName name) :
    Splits (referenceText name ++ text) ⟨[], (name, cut.lead) :: cut.references⟩ where
  whole := (Pieces.text_reference _ _ _).trans (congrArg _ splits.whole)
  named := List.forall_mem_cons.mpr ⟨named, splits.named⟩
  bare := List.forall_mem_cons.mpr ⟨nil.bare [] List.mem_cons_self, splits.bare⟩
  leftmost := ⟨nofun, splits.leftmost⟩

/-- Where no reference starts, a character in front makes the first gap longer. -/
theorem cons (splits : Splits rest cut) (absent : ¬ Starts (c :: rest)) :
    Splits (c :: rest) ⟨c :: cut.lead, cut.references⟩ where
  whole := congrArg (c :: ·) splits.whole
  named := splits.named
  bare := by
    obtain ⟨here, further⟩ := List.forall_mem_cons.mp splits.bare
    refine List.forall_mem_cons.mpr ⟨?_, further⟩
    intro name named inside
    rcases List.infix_cons_iff.mp inside with starts | inside
    · have front : c :: cut.lead <+: c :: rest := by
        rw [← splits.whole]
        exact List.prefix_append _ _
      exact absent ⟨name, named, starts.trans front⟩
    · exact here name named inside
  leftmost := by
    obtain ⟨lead, references⟩ := cut
    cases references with
    | nil => trivial
    | cons first later =>
        refine ⟨?_, splits.leftmost.2⟩
        intro place before
        have whole := splits.whole
        cases place with
        | zero =>
            rw [List.drop_zero, Pieces.text_cons, whole]
            exact absent
        | succ place =>
            rw [Pieces.text_cons, List.drop_succ_cons]
            exact splits.leftmost.1 place (Nat.lt_of_succ_lt_succ before)

/-! ## Taking a cut apart -/

/-- What splits a text splits what stands behind its first reference. -/
theorem of_reference (splits : Splits text ⟨[], (name, behind) :: later⟩) :
    Splits (Pieces.text ⟨behind, later⟩) ⟨behind, later⟩ where
  whole := rfl
  named := (List.forall_mem_cons.mp splits.named).2
  bare := (List.forall_mem_cons.mp splits.bare).2
  leftmost := splits.leftmost.2

/-- What splits a text splits it without its first character, which is in no reference. -/
theorem of_cons (splits : Splits text ⟨c :: lead, later⟩) :
    Splits (Pieces.text ⟨lead, later⟩) ⟨lead, later⟩ where
  whole := rfl
  named := splits.named
  bare := by
    obtain ⟨here, further⟩ := List.forall_mem_cons.mp splits.bare
    refine List.forall_mem_cons.mpr ⟨?_, further⟩
    intro name named inside
    exact here name named (List.infix_cons inside)
  leftmost := by
    cases later with
    | nil => trivial
    | cons first later =>
        refine ⟨?_, splits.leftmost.2⟩
        intro place before
        exact splits.leftmost.1 (place + 1) (Nat.succ_lt_succ before)

/-- A reference that can start at the head does so. -/
theorem lead_eq_nil (splits : Splits text ⟨lead, later⟩) (starts : Starts text) : lead = [] := by
  cases lead with
  | nil => rfl
  | cons c lead =>
      cases later with
      | nil =>
          obtain ⟨name, named, front⟩ := starts
          have whole : c :: lead = text := (Pieces.text_end _).symm.trans splits.whole
          exact (splits.bare _ List.mem_cons_self name named (whole ▸ front.isInfix)).elim
      | cons first later =>
          have blocked := splits.leftmost.1 0 (Nat.zero_lt_succ _)
          rw [List.drop_zero] at blocked
          exact (blocked (splits.whole ▸ starts)).elim

/-- **There is no other way to cut a text.** -/
theorem eq_pieces (splits : Splits text cut) : cut = pieces text := by
  obtain ⟨lead, references⟩ := cut
  fun_induction pieces text generalizing lead references with
  | case1 text name rest found later ih =>
      obtain ⟨named, split⟩ := reference?_eq_some_iff.mp found
      obtain rfl := splits.lead_eq_nil ⟨name, named, split ▸ List.prefix_append _ _⟩
      cases references with
      | nil =>
          have empty : text = [] := splits.whole.symm
          have nothing := List.append_eq_nil_iff.mp (split.symm.trans empty)
          exact (referenceText_ne_nil name nothing.1).elim
      | cons first references =>
          obtain ⟨other, behind⟩ := first
          have whole := splits.whole
          rw [Pieces.text_reference] at whole
          have here := reference?_referenceText (splits.named _ List.mem_cons_self)
            (Pieces.text ⟨behind, references⟩)
          rw [whole, found] at here
          obtain ⟨rfl, rfl⟩ := Prod.mk.inj (Option.some.inj here)
          have same : ⟨behind, references⟩ = later := ih behind references splits.of_reference
          rw [← same]
  | case2 =>
      obtain ⟨none_, nothing⟩ := List.append_eq_nil_iff.mp splits.whole
      cases references with
      | nil => exact congrArg (Pieces.mk · []) none_
      | cons first references =>
          rw [List.flatMap_cons, List.append_assoc] at nothing
          exact (referenceText_ne_nil first.1 (List.append_eq_nil_iff.mp nothing).1).elim
  | case3 c rest absent later ih =>
      have whole := splits.whole
      cases lead with
      | nil =>
          -- Then the text would start with the first reference.
          cases references with
          | nil => cases whole
          | cons first references =>
              rw [Pieces.text_reference] at whole
              have starts : Starts (c :: rest) :=
                ⟨first.1, splits.named _ List.mem_cons_self, whole ▸ List.prefix_append _ _⟩
              exact (reference?_eq_none_iff.mp absent starts).elim
      | cons other lead =>
          obtain ⟨rfl, rfl⟩ := List.cons.inj ((Pieces.text_cons _ _ _).symm.trans whole)
          have same : ⟨lead, references⟩ = later := ih lead references splits.of_cons
          rw [← same]

end Splits

/-- The pieces of a text are the text, cut at its references. -/
theorem splits_pieces (text : List Char) : Splits text (pieces text) := by
  fun_induction pieces text with
  | case1 text name rest found later ih =>
      obtain ⟨named, rfl⟩ := reference?_eq_some_iff.mp found
      exact ih.reference named
  | case2 => exact .nil
  | case3 c rest absent later ih => exact ih.cons (reference?_eq_none_iff.mp absent)

/-- **A text is cut in one way, which depends on nothing else.** -/
theorem splits_iff {text : List Char} {cut : Pieces} : Splits text cut ↔ cut = pieces text :=
  ⟨Splits.eq_pieces, fun same => same ▸ splits_pieces text⟩

/-! ## Texts one behind the other -/

/-- The text leaves no reference open: it does not end in a dollar sign, and behind its last
closing brace nothing opens one. -/
structure Closed (text : List Char) : Prop where
  ends : text.getLast? ≠ some '$'
  shut : ¬ ['$', '\x7b'] <:+: text.rtakeWhile (· ≠ '\x7d')

/-- What opens in a text that leaves nothing open is closed in it. -/
theorem Closed.mem_of_opens {text behind : List Char} (closed : Closed text) (front : List Char)
    (split : text = front ++ '$' :: '\x7b' :: behind) : '\x7d' ∈ behind := by
  apply Decidable.of_not_not
  intro absent
  have kept : ∀ c ∈ '$' :: '\x7b' :: behind, decide (c ≠ '\x7d') = true := by
    intro c member
    apply decide_eq_true
    rintro rfl
    simp only [List.mem_cons, absent, or_false] at member
    exact absurd member (by decide)
  have last : '$' :: '\x7b' :: behind <:+ text.rtakeWhile (· ≠ '\x7d') := by
    rw [split, List.rtakeWhile, List.reverse_append,
      List.takeWhile_append_of_pos fun c member => kept c (List.mem_reverse.mp member),
      List.reverse_append, List.reverse_reverse]
    exact List.suffix_append _ _
  exact closed.shut ((List.prefix_append ['$', '\x7b'] behind).isInfix.trans last.isInfix)

theorem Closed.of_append {front back : List Char} (closed : Closed (front ++ back)) :
    Closed back where
  ends := by
    by_cases empty : back = []
    · rw [empty]
      exact nofun
    · rw [← List.getLast?_append_of_ne_nil front empty]
      exact closed.ends
  shut := by
    have last : back.rtakeWhile (· ≠ '\x7d') <:+ (front ++ back).rtakeWhile (· ≠ '\x7d') := by
      rw [← List.reverse_prefix, List.rtakeWhile, List.rtakeWhile, List.reverse_reverse,
        List.reverse_reverse, List.reverse_append, List.takeWhile_append]
      split
      · exact (List.takeWhile_prefix _).trans (List.prefix_append _ _)
      · exact List.prefix_rfl
    exact fun opens => closed.shut (opens.trans last.isInfix)

/-- Where no reference starts in a text that leaves none open, what follows starts none there. -/
theorem Closed.reference?_append {text : List Char} (closed : Closed text) (some_ : text ≠ [])
    (absent : reference? text = none) (later : List Char) : reference? (text ++ later) = none := by
  rw [reference?_eq_none_iff] at absent ⊢
  rintro ⟨name, named, starts⟩
  rcases List.prefix_or_prefix_of_prefix starts (List.prefix_append text later) with inside | beyond
  · exact absent ⟨name, named, inside⟩
  -- A reference that reaches over the end of the text would have been opened in the text.
  change text <+: ('$' :: '\x7b' :: name) ++ ['\x7d'] at beyond
  rcases List.prefix_concat_iff.mp beyond with whole | beyond
  · exact absent ⟨name, named, whole ▸ List.prefix_rfl⟩
  rcases List.prefix_cons_iff.mp beyond with empty | ⟨tail, rfl, opened⟩
  · exact some_ empty
  rcases List.prefix_cons_iff.mp opened with rfl | ⟨behind, rfl, inside⟩
  · exact closed.ends rfl
  · exact named.open_ended (inside.subset (closed.mem_of_opens [] rfl))

/-- **A text that leaves no reference open is filled in for itself.** -/
theorem fill_append_of_closed (environment : Environment) {text : List Char} (closed : Closed text)
    (later : List Char) : (pieces (text ++ later)).fill environment =
      (pieces text).fill environment ++ (pieces later).fill environment := by
  fun_induction pieces text with
  | case1 text name rest found cut ih =>
      obtain ⟨named, rfl⟩ := reference?_eq_some_iff.mp found
      have filled := fill_reference environment named rest
      rw [pieces_of_found found] at filled
      rw [List.append_assoc, fill_reference environment named, ih closed.of_append, filled,
        List.append_assoc]
  | case2 => rfl
  | case3 c rest absent cut ih =>
      have further : reference? (c :: (rest ++ later)) = none :=
        closed.reference?_append (List.cons_ne_nil c rest) absent later
      have filled := fill_cons environment absent
      rw [pieces_of_absent absent] at filled
      have behind : Closed rest := Closed.of_append (show Closed ([c] ++ rest) from closed)
      rw [List.cons_append, fill_cons environment further, ih behind, filled, List.cons_append]

/-! ## Filling in -/

/-- Where no variable is set, filling in gives the text back. -/
theorem fill_of_unset {environment : Environment} {cut : Pieces}
    (unset : ∀ reference ∈ cut.references, environment (String.ofList reference.1) = none) :
    cut.fill environment = cut.text := by
  have kept : ∀ reference ∈ cut.references,
      referenceValue environment reference.1 ++ reference.2 =
        referenceText reference.1 ++ reference.2 := by
    intro reference member
    simp only [referenceValue, unset reference member]
  rw [Pieces.fill, Pieces.text, List.flatMap_def, List.flatMap_def, List.map_congr_left kept]

/-- What filling in a text comes to. -/
structure Substitution (text : String) : Prop where
  /-- The environment plays no part in the cut. -/
  split : ∃! cut, Splits text.toList cut
  /-- The value of a variable stands in the place of its reference, and the reference itself where
  the variable is not set. -/
  filled : ∀ cut, Splits text.toList cut → ∀ environment : Environment,
    substitute environment text =
      String.ofList (cut.lead ++ cut.references.flatMap fun (name, behind) =>
        (match environment (String.ofList name) with
          | some value => value.toList
          | none => '$' :: '\x7b' :: (name ++ ['\x7d'])) ++ behind)
  /-- Without the variables that it refers to, the text stays as it is. -/
  unset : ∀ cut, Splits text.toList cut → ∀ environment : Environment,
    (∀ reference ∈ cut.references, environment (String.ofList reference.1) = none) →
      substitute environment text = text
  /-- A text that leaves no reference open is filled in for itself, whatever follows. -/
  append : Closed text.toList → ∀ (environment : Environment) (later : String),
    substitute environment (text ++ later) =
      substitute environment text ++ substitute environment later

/-- **Filling in is one pass over a cut that the text alone decides.** -/
theorem substitution (text : String) : Substitution text where
  split := ⟨pieces text.toList, splits_pieces _, fun _ splits => splits.eq_pieces⟩
  filled cut splits environment := by
    rw [splits.eq_pieces]
    rfl
  unset cut splits environment unset := by
    rw [substitute, ← splits.eq_pieces, fill_of_unset unset, splits.whole, String.ofList_toList]
  append closed environment later := by
    rw [substitute, String.toList_append, fill_append_of_closed environment closed,
      String.ofList_append]
    rfl

/-- A value that reads like a reference stays as it is, and over the border of two texts none
comes up. -/
theorem substitution_border :
    Closed "$\x7bA\x7d\x7d$x".toList ∧
    substitute (.ofPairs [("A", "$\x7bC\x7d"), ("C", "c")])
        ("$\x7bA\x7d\x7d$x" ++ "\x7bB\x7d$\x7bC\x7d") =
      "$\x7bC\x7d\x7d$x\x7bB\x7dc" := by
  have closed : Closed "$\x7bA\x7d\x7d$x".toList := ⟨by decide +kernel, by decide +kernel⟩
  refine ⟨closed, ?_⟩
  rw [(substitution _).append closed]
  decide +kernel

/-- A name runs up to the next closing brace, so it may hold what opens a reference. -/
example : pieces "$\x7b$\x7bA\x7d$\x7b\x7dx".toList =
    ⟨[], [("$\x7bA".toList, "$\x7b\x7dx".toList)]⟩ := by
  decide +kernel

end PipelineDepot.Config
