import PipelineDepot.Proofs.ChunkSignature.Tokens

/-! # Stripping as a search

A header is a match of the pattern `\w+;chunk-signature=\w+` over bytes. A pattern lists the ways
in which it can match at the head of a content, the preferred one first: repetition is greedy, so
the longest comes first (`Pattern.rests`). A search goes from left to right, takes the preferred
match wherever there is one and goes on behind it (`Pattern.removeAll`).

At most one way to read the size can be completed, the whole run, so the preferred match is a
header (`head?_rests_header_iff`), and stripping is this search (`strip_eq_removeAll`).
-/

namespace PipelineDepot.ChunkSignature

/-- A pattern over bytes. -/
inductive Pattern
  /-- One or more bytes of a class. -/
  | many (accepts : UInt8 → Bool)
  /-- These very bytes. -/
  | exactly (text : Bytes)
  /-- One pattern behind the other. -/
  | next (first second : Pattern)

namespace Pattern

/-- What is left when one or more accepted bytes are taken, the most first. -/
def manyRests (accepts : UInt8 → Bool) : Bytes → List Bytes
  | [] => []
  | byte :: content => if accepts byte then manyRests accepts content ++ [content] else []

/-- What is left behind a match at the head, for each way to match, the preferred one first. -/
def rests : Pattern → Bytes → List Bytes
  | many accepts, content => manyRests accepts content
  | exactly text, content => if text <+: content then [content.drop text.length] else []
  | next first second, content => (first.rests content).flatMap second.rests

/-- What is left when the matches found from left to right are taken out; an empty match takes
nothing out. -/
def removeAll (pattern : Pattern) : Bytes → Bytes
  | [] => []
  | byte :: content =>
    match (pattern.rests (byte :: content)).head? with
    | some rest =>
      if rest.length ≤ content.length then removeAll pattern rest
      else byte :: removeAll pattern content
    | none => byte :: removeAll pattern content
termination_by content => content.length

/-- The pattern of a header: word bytes, the literal, word bytes. -/
def header : Pattern := .next (.many isWord) (.next (.exactly literal) (.many isWord))

end Pattern

open Pattern

theorem manyRests_of_not_startsWithWord {content : Bytes}
    (apart : startsWithWord content = false) : manyRests isWord content = [] := by
  cases content with
  | nil => rfl
  | cons byte rest =>
      have other : isWord byte = false := apart
      simp only [manyRests, other, Bool.false_eq_true, ↓reduceIte]

/-- Taking a whole run comes first, and whoever takes less stops in front of a word byte. -/
theorem manyRests_run {run rest : Bytes} (isRun : IsRun run) (stops : startsWithWord rest = false) :
    ∃ fewer, manyRests isWord (run ++ rest) = rest :: fewer ∧
      ∀ left ∈ fewer, startsWithWord left = true := by
  obtain ⟨some_, words⟩ := isRun
  induction run with
  | nil => exact (some_ rfl).elim
  | cons byte run ih =>
      obtain ⟨head, tail⟩ := List.forall_mem_cons.mp words
      rw [List.cons_append, manyRests, if_pos head]
      cases run with
      | nil =>
          rw [List.nil_append, manyRests_of_not_startsWithWord stops]
          exact ⟨[], rfl, fun _ member => (List.not_mem_nil member).elim⟩
      | cons second run =>
          obtain ⟨fewer, split, all⟩ := ih (List.cons_ne_nil _ _) tail
          rw [split]
          refine ⟨fewer ++ [second :: run ++ rest], rfl, ?_⟩
          intro left member
          rcases List.mem_append.mp member with before | last
          · exact all left before
          · obtain rfl := List.mem_singleton.mp last
            exact (List.forall_mem_cons.mp tail).1

/-- The part of the pattern behind the size. -/
abbrev Pattern.literalPart : Pattern := .next (.exactly literal) (.many isWord)

theorem rests_literalPart_append (back : Bytes) :
    Pattern.literalPart.rests (literal ++ back) = manyRests isWord back := by
  have here : literal <+: literal ++ back := List.prefix_append _ _
  simp only [rests, here, ↓reduceIte, List.drop_left, List.flatMap_singleton]

/-- The literal does not match where a word byte stands. -/
theorem rests_literalPart_of_startsWithWord {content : Bytes}
    (starts : startsWithWord content = true) : Pattern.literalPart.rests content = [] := by
  have absent : ¬ literal <+: content := by
    rintro ⟨rest, rfl⟩
    cases starts
  simp only [rests, absent, ↓reduceIte, List.flatMap_nil]

/-- Only a size that is a whole run can be completed to a match. -/
theorem rests_header_run {run rest : Bytes} (isRun : IsRun run)
    (stops : startsWithWord rest = false) :
    Pattern.header.rests (run ++ rest) = Pattern.literalPart.rests rest := by
  obtain ⟨fewer, split, all⟩ := manyRests_run isRun stops
  have none_ : fewer.flatMap Pattern.literalPart.rests = [] := by
    rw [List.flatMap_eq_nil_iff]
    intro left member
    exact rests_literalPart_of_startsWithWord (all left member)
  change (manyRests isWord (run ++ rest)).flatMap Pattern.literalPart.rests = _
  rw [split, List.flatMap_cons, none_, List.append_nil]

/-- **The preferred match of the pattern at the head of a content is a header.** -/
theorem head?_rests_header_iff (content rest : Bytes) :
    (Pattern.header.rests content).head? = some rest ↔ Headed content rest := by
  constructor
  · intro found
    cases starts : startsWithWord content with
    | false =>
        change ((manyRests isWord content).flatMap _).head? = _ at found
        rw [manyRests_of_not_startsWithWord starts] at found
        cases found
    | true =>
        obtain ⟨size, behind, rfl, isSize, stops⟩ := exists_run_of_startsWithWord starts
        rw [rests_header_run isSize stops] at found
        by_cases here : literal <+: behind
        · obtain ⟨back, rfl⟩ := here
          rw [rests_literalPart_append] at found
          cases goes : startsWithWord back with
          | false =>
              rw [manyRests_of_not_startsWithWord goes] at found
              cases found
          | true =>
              obtain ⟨signature, left, rfl, isSignature, ends⟩ := exists_run_of_startsWithWord goes
              obtain ⟨fewer, split, -⟩ := manyRests_run isSignature ends
              rw [split, List.head?_cons] at found
              exact Option.some.inj found ▸ .intro isSize isSignature ends
        · simp only [rests, here, ↓reduceIte, List.flatMap_nil, List.head?_nil,
            reduceCtorEq] at found
  · rintro ⟨isSize, isSignature, stops⟩
    obtain ⟨fewer, split, -⟩ := manyRests_run isSignature stops
    rw [rests_header_run isSize rfl, rests_literalPart_append, split, List.head?_cons]

theorem Headed.length_lt {content rest : Bytes} (headed : Headed content rest) :
    rest.length < content.length := by
  obtain ⟨isSize, -, -⟩ := headed
  have long := List.length_pos_iff.mpr isSize.some_
  simp only [List.length_append]
  omega

/-- **Stripping takes out what the search finds.** -/
theorem strip_eq_removeAll (content : Bytes) :
    strip content = Pattern.header.removeAll content := by
  fun_induction removeAll Pattern.header content with
  | case1 => exact strip_nil
  | case2 byte content rest found shorter ih =>
      rw [strip_of_headed ((head?_rests_header_iff _ _).mp found), ih]
  | case3 byte content rest found longer ih =>
      have shorter := ((head?_rests_header_iff _ _).mp found).length_lt
      rw [List.length_cons] at shorter
      exact (longer (Nat.le_of_lt_succ shorter)).elim
  | case4 byte content absent ih =>
      have bare : ∀ rest, ¬ Headed (byte :: content) rest := by
        intro rest headed
        exact Option.some_ne_none _ (((head?_rests_header_iff _ _).mpr headed).symm.trans absent)
      rw [strip_cons bare, ih]

end PipelineDepot.ChunkSignature
