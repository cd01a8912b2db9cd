import Mathlib.Data.List.TakeWhile
import PipelineDepot.Config.Substitution

/-! # Filling in a text piece by piece

A reference is found at the head of a text exactly where one is written (`reference?_eq_some_iff`).
It is replaced by the value of its variable, whatever follows (`fill_reference`), and where none
starts, the character stays (`fill_cons`); so a text without a dollar sign stays as it is
(`fill_append`). What a text with references becomes is read off piece by piece from these.
-/

namespace PipelineDepot.Config

/-- The name can stand in a reference. -/
structure IsName (name : List Char) : Prop where
  nonempty : name ≠ []
  open_ended : '\x7d' ∉ name

/-- A reference is found where it is written. -/
theorem reference?_referenceText {name : List Char} (named : IsName name) (rest : List Char) :
    reference? (referenceText name ++ rest) = some (name, rest) := by
  have before : ∀ c ∈ name, (c != '\x7d') = true := by
    intro c member
    exact bne_iff_ne.mpr fun same => named.open_ended (same ▸ member)
  have taken : (name ++ '\x7d' :: rest).takeWhile (· != '\x7d') = name := by
    rw [List.takeWhile_append_of_pos before]
    simp
  have left : (name ++ '\x7d' :: rest).dropWhile (· != '\x7d') = '\x7d' :: rest := by
    rw [List.dropWhile_append_of_pos before]
    simp
  have body : name ++ ['\x7d'] ++ rest = name ++ '\x7d' :: rest := by simp
  simp only [reference?, referenceText, List.cons_append, body, taken, left]
  cases name with
  | nil => exact absurd rfl named.nonempty
  | cons c name => rfl

/-- **A reference is found at the head of a text exactly where one is written.** -/
theorem reference?_eq_some_iff {text name rest : List Char} :
    reference? text = some (name, rest) ↔ IsName name ∧ text = referenceText name ++ rest := by
  constructor
  · intro found
    unfold reference? at found
    split at found
    next body =>
      have whole := List.takeWhile_append_dropWhile (p := (· != '\x7d')) (l := body)
      have stops := List.head?_dropWhile_not (· != '\x7d') body
      split at found
      next => cases found
      next => cases found
      next brace _ dropped some_ =>
        rw [dropped] at whole stops
        cases found
        have shut : brace = '\x7d' := by
          simpa only [List.head?_cons, bne_eq_false_iff_eq] using stops
        refine ⟨⟨some_, fun member => ?_⟩, ?_⟩
        · have other := List.mem_takeWhile_imp (p := (· != '\x7d')) member
          exact absurd rfl (bne_iff_ne.mp other)
        · have body_eq : body = body.takeWhile (· != '\x7d') ++ '\x7d' :: rest := shut ▸ whole.symm
          rw [referenceText, List.cons_append, List.cons_append, List.append_assoc,
            List.singleton_append, ← body_eq]
    next => cases found
  · rintro ⟨named, rfl⟩
    exact reference?_referenceText named rest

theorem reference?_of_ne_dollar {c : Char} (other : c ≠ '$') (rest : List Char) :
    reference? (c :: rest) = none := by
  unfold reference?
  split
  next same => exact absurd (List.cons.inj same).1 other
  next => rfl

/-- A reference that is found parts the text, and the search goes on behind it. -/
theorem pieces_of_found {text name rest : List Char} (found : reference? text = some (name, rest)) :
    pieces text = ⟨[], (name, (pieces rest).lead) :: (pieces rest).references⟩ := by
  rw [pieces.eq_def]
  split
  next here =>
    rw [found] at here
    cases here
    rfl
  next missed =>
    rw [found] at missed
    cases missed

/-- A character that no reference starts with stays in the text. -/
theorem pieces_of_absent {c : Char} {rest : List Char} (absent : reference? (c :: rest) = none) :
    pieces (c :: rest) = ⟨c :: (pieces rest).lead, (pieces rest).references⟩ := by
  rw [pieces.eq_def]
  split
  next found =>
    rw [absent] at found
    cases found
  next => rfl

variable (environment : Environment)

/-- A reference is replaced by the value of its variable. -/
theorem fill_reference {name : List Char} (named : IsName name) (rest : List Char) :
    (pieces (referenceText name ++ rest)).fill environment =
      referenceValue environment name ++ (pieces rest).fill environment := by
  simp only [pieces_of_found (reference?_referenceText named rest), Pieces.fill, List.nil_append,
    List.flatMap_cons, List.append_assoc]

/-- Where no reference starts, the first character stays. -/
theorem fill_cons {c : Char} {rest : List Char} (absent : reference? (c :: rest) = none) :
    (pieces (c :: rest)).fill environment = c :: (pieces rest).fill environment := by
  rw [pieces_of_absent absent, Pieces.fill, List.cons_append, Pieces.fill]

/-- A text without a dollar sign stays as it is. -/
theorem fill_append {lead : List Char} (free : '$' ∉ lead) (rest : List Char) :
    (pieces (lead ++ rest)).fill environment = lead ++ (pieces rest).fill environment := by
  induction lead with
  | nil => rfl
  | cons c lead ih =>
      rw [List.mem_cons, not_or] at free
      rw [List.cons_append, fill_cons environment (reference?_of_ne_dollar (Ne.symm free.1) _),
        ih free.2, List.cons_append]

theorem fill_nil : (pieces []).fill environment = [] := by
  rw [pieces.eq_def]
  rfl

theorem referenceValue_of_set {environment : Environment} {name : List Char} {value : String}
    (set : environment (String.ofList name) = some value) :
    referenceValue environment name = value.toList := by
  simp only [referenceValue, set]

end PipelineDepot.Config
