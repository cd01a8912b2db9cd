import PipelineDepot.Proofs.ChunkSignature.Tokens

/-! # Where headers stand

The literal of a header stands at certain places of a content (`Occurs`), and no two of these
overlap (`Occurs.apart`). A header is an occurrence with a run of word bytes on either side
(`HeaderAt`), so a content carries one exactly when some occurrence stands between two word bytes
(`contains_iff`).
-/

namespace PipelineDepot.ChunkSignature

/-- The literal of a header stands at the place. -/
def Occurs (content : Bytes) (place : Nat) : Prop := literal <+: content.drop place

instance (content : Bytes) : DecidablePred (Occurs content) :=
  fun _ => inferInstanceAs (Decidable (_ <+: _))

/-- A word byte stands at the place. -/
def wordAt (content : Bytes) (place : Nat) : Bool := content[place]?.any isWord

/-- Word bytes only stand from the one place up to the other. -/
def OnlyWords (content : Bytes) (start stop : Nat) : Prop :=
  ∀ place < stop, start ≤ place → wordAt content place = true

instance (content : Bytes) (start stop : Nat) : Decidable (OnlyWords content start stop) :=
  inferInstanceAs (Decidable (∀ place < stop, _))

/-- Word bytes stand directly before and directly after the literal at the place. -/
def BetweenWords (content : Bytes) (place : Nat) : Prop :=
  (0 < place ∧ wordAt content (place - 1) = true) ∧ wordAt content (place + literal.length) = true

instance (content : Bytes) : DecidablePred (BetweenWords content) :=
  fun _ => inferInstanceAs (Decidable (_ ∧ _))

/-- A header starts at `start`, has its literal at `place` and ends at `stop`, both runs being as
long as they can behind `start`. -/
structure HeaderAt (content : Bytes) (start place stop : Nat) : Prop where
  occurs : Occurs content place
  sizeLong : start < place
  size : OnlyWords content start place
  signatureLong : place + literal.length < stop
  signature : OnlyWords content (place + literal.length) stop
  ends : wordAt content stop = false

variable {content : Bytes} {start stop place : Nat}

/-! ## Places and bytes -/

theorem wordAt_drop (start place : Nat) :
    wordAt (content.drop start) place = wordAt content (start + place) := by
  rw [wordAt, wordAt, List.getElem?_drop]

theorem startsWithWord_drop (place : Nat) :
    startsWithWord (content.drop place) = wordAt content place := by
  rw [startsWithWord, wordAt, List.head?_drop]

theorem lt_length_of_wordAt (word : wordAt content place = true) : place < content.length := by
  apply Nat.lt_of_not_le
  intro beyond
  rw [wordAt, List.getElem?_eq_none beyond] at word
  cases word

theorem Occurs.drop_eq (occurs : Occurs content place) :
    content.drop place = literal ++ content.drop (place + literal.length) := by
  obtain ⟨rest, split⟩ := occurs
  rw [← List.drop_drop, ← split, List.drop_left]

/-- What stands where the literal stands. -/
theorem Occurs.getElem? (occurs : Occurs content place) {index : Nat}
    (inside : index < literal.length) : content[place + index]? = literal[index]? := by
  rw [← List.getElem?_drop, occurs.drop_eq, List.getElem?_append_left inside]

/-- The literal starts with a separator, so no run of word bytes reaches into it from the front. -/
theorem Occurs.not_wordAt (occurs : Occurs content place) : wordAt content place = false := by
  rw [wordAt, ← Nat.add_zero place, occurs.getElem? (by decide)]
  rfl

theorem Occurs.not_wordAt_last (occurs : Occurs content place) :
    wordAt content (place + 16) = false := by
  rw [wordAt, occurs.getElem? (by decide)]
  rfl

/-- **Occurrences never overlap**: the first byte of the literal does not come again in it. -/
theorem Occurs.apart {next : Nat} (occurs : Occurs content place) (later : Occurs content next)
    (before : place < next) : place + literal.length ≤ next := by
  apply Nat.le_of_not_lt
  intro overlap
  obtain ⟨index, rfl⟩ := Nat.exists_eq_add_of_lt before
  have inside : index + 1 < literal.length := by omega
  have same := occurs.getElem? inside
  rw [← Nat.add_assoc, ← Nat.add_zero (place + index + 1), later.getElem? (by decide)] at same
  have apart : ∀ index < literal.length, 0 < index → literal[0]? ≠ literal[index]? := by decide
  exact apart (index + 1) inside (Nat.succ_pos index) same

/-- No literal starts in a run of word bytes. -/
theorem OnlyWords.not_occurs (words : OnlyWords content start stop) (above : start ≤ place)
    (below : place < stop) : ¬ Occurs content place := by
  intro occurs
  exact Bool.false_ne_true (occurs.not_wordAt.symm.trans (words place below above))

theorem onlyWords_drop_iff : OnlyWords (content.drop start) 0 place ↔
    OnlyWords content start (start + place) := by
  constructor
  · intro words other below above
    obtain ⟨index, rfl⟩ := Nat.exists_eq_add_of_le above
    rw [← wordAt_drop]
    exact words index (by omega) (Nat.zero_le _)
  · intro words index below _
    rw [wordAt_drop]
    exact words _ (by omega) (Nat.le_add_right _ _)

/-- A run at a place is a stretch of word bytes. -/
theorem onlyWords_of_run {run rest : Bytes} (isRun : IsRun run)
    (split : content.drop start = run ++ rest) :
    OnlyWords content start (start + run.length) ∧ rest = content.drop (start + run.length) := by
  constructor
  · rw [← onlyWords_drop_iff, split]
    intro index below _
    rw [wordAt, List.getElem?_append_left below, List.getElem?_eq_getElem below]
    exact isRun.words _ (List.getElem_mem below)
  · rw [← List.drop_drop, split, List.drop_left]

/-- A stretch of word bytes is a run. -/
theorem exists_run (words : OnlyWords content start stop) (long : start < stop) :
    ∃ run, IsRun run ∧ content.drop start = run ++ content.drop stop := by
  have bound : stop - 1 < content.length := lt_length_of_wordAt (words _ (by omega) (by omega))
  have rest : content.drop stop = (content.drop start).drop (stop - start) := by
    rw [List.drop_drop]
    congr 1
    omega
  refine ⟨(content.drop start).take (stop - start), ⟨?_, ?_⟩, ?_⟩
  · rw [← List.length_pos_iff, List.length_take, List.length_drop]
    omega
  · intro byte member
    obtain ⟨index, below, rfl⟩ := List.getElem_of_mem member
    rw [List.length_take] at below
    have word := words (start + index) (by omega) (Nat.le_add_right _ _)
    rw [← wordAt_drop, wordAt, List.getElem?_eq_getElem (by omega)] at word
    rw [List.getElem_take]
    exact word
  · rw [rest, List.take_append_drop]

/-! ## Headers and places -/

theorem HeaderAt.headed (header : HeaderAt content start place stop) :
    Headed (content.drop start) (content.drop stop) := by
  obtain ⟨size, isSize, front⟩ := exists_run header.size header.sizeLong
  obtain ⟨signature, isSignature, back⟩ := exists_run header.signature header.signatureLong
  rw [front, header.occurs.drop_eq, back]
  exact .intro isSize isSignature ((startsWithWord_drop stop).trans header.ends)

/-- A header at the head of what is left stands at a place. -/
theorem exists_headerAt {rest : Bytes} (headed : Headed (content.drop start) rest) :
    ∃ place stop, HeaderAt content start place stop ∧ rest = content.drop stop := by
  generalize split : content.drop start = left at headed
  obtain ⟨isSize, isSignature, stops⟩ := headed
  rename_i size signature
  obtain ⟨sizeWords, front⟩ := onlyWords_of_run isSize split
  have occurs : Occurs content (start + size.length) := ⟨_, front⟩
  have back : content.drop (start + size.length + literal.length) = signature ++ rest :=
    List.append_cancel_left (occurs.drop_eq.symm.trans front.symm)
  obtain ⟨signatureWords, rfl⟩ := onlyWords_of_run isSignature back
  have sizeLong := List.length_pos_iff.mpr isSize.some_
  have signatureLong := List.length_pos_iff.mpr isSignature.some_
  refine ⟨start + size.length, _, ?_, rfl⟩
  exact {
    occurs := occurs
    sizeLong := by omega
    size := sizeWords
    signatureLong := by omega
    signature := signatureWords
    ends := (startsWithWord_drop _).symm.trans stops }

/-- A header has word bytes on both sides of its literal. -/
theorem HeaderAt.betweenWords (header : HeaderAt content start place stop) :
    BetweenWords content place := by
  obtain ⟨-, sizeLong, size, signatureLong, signature, -⟩ := header
  exact ⟨⟨by omega, size _ (by omega) (by omega)⟩, signature _ signatureLong (Nat.le_refl _)⟩

/-- A stretch of word bytes goes on to the next byte that is none. -/
theorem exists_stop (word : wordAt content place = true) :
    ∃ stop, place < stop ∧ OnlyWords content place stop ∧ wordAt content stop = false := by
  have starts : startsWithWord (content.drop place) = true := (startsWithWord_drop place).trans word
  obtain ⟨run, rest, split, isRun, stops⟩ := exists_run_of_startsWithWord starts
  obtain ⟨words, rfl⟩ := onlyWords_of_run isRun split
  have long := List.length_pos_iff.mpr isRun.some_
  exact ⟨place + run.length, by omega, words, (startsWithWord_drop _).symm.trans stops⟩

/-- An occurrence between word bytes ends a header wherever its size starts. -/
theorem exists_headerAt_of_betweenWords (occurs : Occurs content place)
    (between : BetweenWords content place) (long : start < place)
    (size : OnlyWords content start place) : ∃ stop, HeaderAt content start place stop := by
  obtain ⟨stop, signatureLong, signature, ends⟩ := exists_stop between.2
  exact ⟨stop, occurs, long, size, signatureLong, signature, ends⟩

/-- A content carries a header exactly when one starts somewhere. -/
theorem contains_iff_exists_headed (content : Bytes) :
    contains content = true ↔ ∃ start rest, Headed (content.drop start) rest := by
  induction content with
  | nil =>
      simp only [List.drop_nil]
      constructor
      · intro found
        cases found
      · rintro ⟨-, rest, headed⟩
        exact (isSome_afterHeader?_iff []).mpr ⟨rest, headed⟩
  | cons byte content ih =>
      rw [contains_cons_iff, ih]
      constructor
      · rintro (⟨rest, headed⟩ | ⟨start, rest, headed⟩)
        · exact ⟨0, rest, headed⟩
        · exact ⟨start + 1, rest, headed⟩
      · rintro ⟨start, rest, headed⟩
        cases start with
        | zero => exact Or.inl ⟨rest, headed⟩
        | succ start => exact Or.inr ⟨start, rest, headed⟩

/-- **A content carries a header exactly when an occurrence stands between word bytes.** -/
theorem contains_iff (content : Bytes) :
    contains content = true ↔ ∃ place, Occurs content place ∧ BetweenWords content place := by
  rw [contains_iff_exists_headed]
  constructor
  · rintro ⟨start, rest, headed⟩
    obtain ⟨place, stop, header, -⟩ := exists_headerAt headed
    exact ⟨place, header.occurs, header.betweenWords⟩
  · rintro ⟨place, occurs, between⟩
    have size : OnlyWords content (place - 1) place := by
      intro other below above
      obtain rfl : other = place - 1 := by omega
      exact between.1.2
    have long : place - 1 < place := Nat.sub_lt between.1.1 Nat.one_pos
    obtain ⟨stop, header⟩ := exists_headerAt_of_betweenWords occurs between long size
    exact ⟨place - 1, _, header.headed⟩

end PipelineDepot.ChunkSignature
