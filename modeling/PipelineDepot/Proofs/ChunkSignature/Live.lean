import Mathlib.Data.Nat.Find
import Mathlib.Data.Nat.Init
import PipelineDepot.Proofs.ChunkSignature.Occurrence
import PipelineDepot.Proofs.ChunkSignature.Search

/-! # Which bytes stripping takes out

The occurrences of the literal are taken from left to right. One is live when it stands between
word bytes, unless the occurrence before it is live and word bytes only lie between the two: then
these are the signature of the earlier header and cannot be the size of another (`IsLive`).
Stripping takes out every live occurrence together with the runs of word bytes that touch it, and
keeps all other bytes in order (`strip_eq_withoutLive`).

The proof follows the occurrences. What it carries from one to the next is a place up to which
everything is settled (`Settled`): either no word byte stands before the place, or the bytes
before it are the signature of a live occurrence and no word byte follows.
-/

namespace PipelineDepot.ChunkSignature

/-- The places from `start` on where the literal stands, from left to right. -/
def occurrencesFrom (content : Bytes) (start : Nat) : List Nat :=
  (List.range' start (content.length - start)).filter (Occurs content)

/-- The occurrence at the place counts as a header; `last` is the occurrence before it, if that
one does. -/
def IsLive (content : Bytes) (last : Option Nat) (place : Nat) : Prop :=
  BetweenWords content place ∧
    ∀ before ∈ last, ¬ OnlyWords content (before + literal.length) place

instance (content : Bytes) (last : Option Nat) : DecidablePred (IsLive content last) :=
  fun _ => inferInstanceAs (Decidable (_ ∧ _))

/-- The live ones among occurrences that are listed from left to right; `last` is the occurrence
before them, if it is live. -/
def liveAmong (content : Bytes) : Option Nat → List Nat → List Nat
  | _, [] => []
  | last, place :: later =>
    if IsLive content last place then place :: liveAmong content (some place) later
    else liveAmong content none later

/-- The live occurrences of the literal. -/
def live (content : Bytes) : List Nat := liveAmong content none (occurrencesFrom content 0)

/-- The byte at the place belongs to the literal at `occurrence`, or to one of the runs of word
bytes that touch it. -/
def Belongs (content : Bytes) (occurrence place : Nat) : Prop :=
  (place < occurrence ∧ OnlyWords content place occurrence) ∨
  (occurrence ≤ place ∧ place < occurrence + literal.length) ∨
  (occurrence + literal.length ≤ place ∧
    OnlyWords content (occurrence + literal.length) (place + 1))

instance (content : Bytes) (occurrence place : Nat) :
    Decidable (Belongs content occurrence place) :=
  inferInstanceAs (Decidable (_ ∨ _))

/-- The bytes, the first of which stands at `start`, without those at the places taken. -/
def keep (taken : Nat → Prop) [DecidablePred taken] (start : Nat) (content : Bytes) : Bytes :=
  ((content.zipIdx start).filter fun entry => ¬ taken entry.2).map Prod.fst

/-- The content without the bytes that belong to live occurrences. -/
def withoutLive (content : Bytes) : Bytes :=
  keep (fun place => ∃ occurrence ∈ live content, Belongs content occurrence place) 0 content

variable {content : Bytes} {start stop place : Nat}

/-! ## Occurrences in order -/

theorem mem_occurrencesFrom :
    place ∈ occurrencesFrom content start ↔ start ≤ place ∧ Occurs content place := by
  rw [occurrencesFrom, List.mem_filter, List.mem_range'_1, decide_eq_true_eq]
  constructor
  · rintro ⟨⟨above, -⟩, occurs⟩
    exact ⟨above, occurs⟩
  · rintro ⟨above, occurs⟩
    have inside : place < content.length := by
      have fits := occurs.length_le
      rw [List.length_drop] at fits
      have some_ : 0 < literal.length := by decide
      omega
    exact ⟨⟨above, by omega⟩, occurs⟩

theorem occurrencesFrom_succ (content : Bytes) (start : Nat) :
    occurrencesFrom content start =
      if Occurs content start then start :: occurrencesFrom content (start + 1)
      else occurrencesFrom content (start + 1) := by
  by_cases inside : start < content.length
  · have count : content.length - start = content.length - (start + 1) + 1 := by omega
    rw [occurrencesFrom, count, List.range'_succ, List.filter_cons]
    simp only [decide_eq_true_eq]
    rfl
  · have absent : ¬ Occurs content start := by
      intro occurs
      have member := mem_occurrencesFrom.mpr ⟨Nat.le_refl start, occurs⟩
      have none_ : content.length - start = 0 := by omega
      rw [occurrencesFrom, none_] at member
      exact List.not_mem_nil member
    have none_ : content.length - start = 0 := by omega
    have none' : content.length - (start + 1) = 0 := by omega
    rw [if_neg absent, occurrencesFrom, occurrencesFrom, none_, none']
    rfl

/-- Where the literal does not stand, nothing is listed. -/
theorem occurrencesFrom_skip (reach : start ≤ stop)
    (absent : ∀ place, start ≤ place → place < stop → ¬ Occurs content place) :
    occurrencesFrom content start = occurrencesFrom content stop := by
  induction reach using Nat.decreasingInduction with
  | self => rfl
  | of_succ start below ih =>
      rw [occurrencesFrom_succ, if_neg (absent start (Nat.le_refl _) below)]
      exact ih fun place above => absent place (Nat.le_of_succ_le above)

/-- Occurrences of the literal do not overlap: each starts behind the one before it. -/
theorem pairwise_occurrencesFrom (content : Bytes) (start : Nat) :
    (occurrencesFrom content start).Pairwise fun first second =>
      first + literal.length ≤ second := by
  have ordered : (occurrencesFrom content start).Pairwise (· < ·) :=
    List.Pairwise.filter _ List.pairwise_lt_range'
  apply ordered.imp_of_mem
  intro first second here there before
  exact (mem_occurrencesFrom.mp here).2.apart (mem_occurrencesFrom.mp there).2 before

theorem mem_of_mem_liveAmong {last : Option Nat} {places : List Nat}
    (member : place ∈ liveAmong content last places) : place ∈ places := by
  induction places generalizing last with
  | nil => exact member
  | cons first later ih =>
      rw [liveAmong] at member
      split at member
      · rcases List.mem_cons.mp member with rfl | later
        · exact List.mem_cons_self
        · exact List.mem_cons_of_mem _ (ih later)
      · exact List.mem_cons_of_mem _ (ih member)

/-- The literal stands at `place`, and nowhere from `start` up to there. -/
structure ComesFirst (content : Bytes) (start place : Nat) : Prop where
  reach : start ≤ place
  occurs : Occurs content place
  none_before : ∀ other, start ≤ other → other < place → ¬ Occurs content other

/-- From a place on the literal stands nowhere, or somewhere first. -/
theorem absent_or_comesFirst (content : Bytes) (start : Nat) :
    (∀ place, start ≤ place → ¬ Occurs content place) ∨
      ∃ place, ComesFirst content start place := by
  by_cases some_ : ∃ place, start ≤ place ∧ Occurs content place
  · obtain ⟨reach, occurs⟩ := Nat.find_spec some_
    refine Or.inr ⟨Nat.find some_, reach, occurs, ?_⟩
    intro other above before stands
    exact Nat.find_min some_ before ⟨above, stands⟩
  · refine Or.inl ?_
    intro place above occurs
    exact some_ ⟨place, above, occurs⟩

/-- What is listed is the first occurrence and the ones behind the run that follows it. -/
theorem ComesFirst.occurrencesFrom_eq (first : ComesFirst content start place)
    (behind : place + literal.length ≤ stop)
    (words : OnlyWords content (place + literal.length) stop) :
    occurrencesFrom content start = place :: occurrencesFrom content stop := by
  have size : literal.length = 17 := rfl
  rw [occurrencesFrom_skip first.reach first.none_before, occurrencesFrom_succ,
    if_pos first.occurs]
  apply congrArg
  apply occurrencesFrom_skip (by omega)
  intro other above before later
  have apart := first.occurs.apart later above
  exact words.not_occurs apart before later

/-- A header that starts behind `start` has its literal at the first occurrence or later. -/
theorem ComesFirst.le_of_headerAt {found size : Nat} (first : ComesFirst content start place)
    (low : start ≤ size) (header : HeaderAt content size found stop) : place ≤ found := by
  apply Nat.le_of_not_lt
  intro early
  exact first.none_before found (Nat.le_trans low (Nat.le_of_lt header.sizeLong)) early
    header.occurs

/-! ## Keeping and stripping side by side -/

section

variable {taken : Nat → Prop} [DecidablePred taken]

theorem keep_cons (byte : UInt8) (rest : Bytes) :
    keep taken start (byte :: rest) =
      if taken start then keep taken (start + 1) rest else byte :: keep taken (start + 1) rest := by
  rw [keep, List.zipIdx_cons, List.filter_cons]
  by_cases gone : taken start
  · simp only [gone, not_true_eq_false, decide_false, Bool.false_eq_true, ↓reduceIte]
    rfl
  · simp only [gone, not_false_eq_true, decide_true, ↓reduceIte, List.map_cons]
    rfl

/-- Only what is taken from `start` on plays a part. -/
theorem keep_congr {other : Nat → Prop} [DecidablePred other]
    (same : ∀ place, start ≤ place → (taken place ↔ other place)) (rest : Bytes) :
    keep taken start rest = keep other start rest := by
  induction rest generalizing start with
  | nil => rfl
  | cons byte rest ih =>
      have next := ih fun place above => same place (Nat.le_of_succ_le above)
      rw [keep_cons, keep_cons, next]
      simp only [same start (Nat.le_refl start)]

/-- Places taken one after the other leave nothing. -/
theorem keep_drop_of_taken (reach : start ≤ stop)
    (all : ∀ place, start ≤ place → place < stop → taken place) :
    keep taken start (content.drop start) = keep taken stop (content.drop stop) := by
  induction reach using Nat.decreasingInduction with
  | self => rfl
  | of_succ start below ih =>
      rw [← ih fun place above => all place (Nat.le_of_succ_le above)]
      by_cases inside : start < content.length
      · rw [List.drop_eq_getElem_cons inside, keep_cons, if_pos (all start (Nat.le_refl _) below)]
      · rw [List.drop_eq_nil_of_le (Nat.le_of_not_lt inside),
          List.drop_eq_nil_of_le (Nat.le_succ_of_le (Nat.le_of_not_lt inside))]
        rfl

/-- Keeping and stripping agree behind places that are neither taken nor the start of a header,
and so in front of them. -/
theorem keep_drop_eq_strip_of_bare (reach : start ≤ stop)
    (spared : ∀ place, start ≤ place → place < stop → ¬ taken place)
    (bare : ∀ place, start ≤ place → place < stop → ∀ rest, ¬ Headed (content.drop place) rest)
    (behind : keep taken stop (content.drop stop) = strip (content.drop stop)) :
    keep taken start (content.drop start) = strip (content.drop start) := by
  induction reach using Nat.decreasingInduction with
  | self => exact behind
  | of_succ start below ih =>
      have next := ih (fun place above => spared place (Nat.le_of_succ_le above))
        fun place above => bare place (Nat.le_of_succ_le above)
      by_cases inside : start < content.length
      · have absent := bare start (Nat.le_refl _) below
        rw [List.drop_eq_getElem_cons inside] at absent ⊢
        rw [keep_cons, if_neg (spared start (Nat.le_refl _) below), next, strip_cons absent]
      · rw [List.drop_eq_nil_of_le (Nat.le_succ_of_le (Nat.le_of_not_lt inside))] at next
        rw [List.drop_eq_nil_of_le (Nat.le_of_not_lt inside), ← next]
        rfl

end

/-! ## From one occurrence to the next -/

/-- What is known of the bytes in front of `start` when the occurrences from there on are taken:
no run goes on over `start`, and whatever may lie in front of it belongs to the live occurrence
`last`. -/
structure Settled (content : Bytes) (last : Option Nat) (start : Nat) : Prop where
  bound : start ≤ content.length
  fresh : last = none → start = 0 ∨ wordAt content (start - 1) = false
  used : ∀ before ∈ last, before + literal.length ≤ start ∧
    OnlyWords content (before + literal.length) start ∧ wordAt content start = false

variable {last : Option Nat}

/-- A size needs bytes of its own. -/
theorem Settled.lt_of_isLive (settled : Settled content last start) (reach : start ≤ place)
    (isLive : IsLive content last place) : start < place := by
  apply Nat.lt_of_le_of_ne reach
  rintro rfl
  obtain ⟨⟨⟨inside, word⟩, -⟩, apart⟩ := isLive
  cases last with
  | none =>
      rcases settled.fresh rfl with top | other
      · exact Nat.lt_irrefl 0 (top ▸ inside)
      · exact Bool.false_ne_true (other.symm.trans word)
  | some before => exact apart before rfl (settled.used before rfl).2.1

/-- The first occurrence from `start` on is live if a header starts in between. -/
theorem Settled.isLive_of_headerAt (settled : Settled content last start) {first : Nat}
    (reach : start ≤ first) (header : HeaderAt content first place stop) :
    IsLive content last place := by
  refine ⟨header.betweenWords, ?_⟩
  intro before member words
  obtain ⟨behind, -, other⟩ := settled.used before member
  have word := words start (Nat.lt_of_le_of_lt reach header.sizeLong) behind
  exact Bool.false_ne_true (other.symm.trans word)

/-- The run of word bytes in front of a place starts at `start` or behind another byte. -/
theorem exists_size (inside : start ≤ place - 1) (positive : 0 < place)
    (word : wordAt content (place - 1) = true) :
    ∃ first, start ≤ first ∧ first < place ∧ OnlyWords content first place ∧
      (first = start ∨ wordAt content (first - 1) = false) := by
  induction inside using Nat.decreasingInduction with
  | self =>
      refine ⟨place - 1, Nat.le_refl _, Nat.sub_lt positive Nat.one_pos, ?_, Or.inl rfl⟩
      intro other below above
      obtain rfl : other = place - 1 := by omega
      exact word
  | of_succ start below ih =>
      obtain ⟨first, above, before, words, rfl | other⟩ := ih
      · cases here : wordAt content start with
        | false => exact ⟨start + 1, by omega, before, words, Or.inr here⟩
        | true =>
            refine ⟨start, Nat.le_refl _, by omega, ?_, Or.inl rfl⟩
            intro other below above
            rcases Nat.eq_or_lt_of_le above with rfl | later
            · exact here
            · exact words other below later
      · exact ⟨first, by omega, before, words, Or.inr other⟩

/-- Behind `start`, what belongs to the literal of a header is that header. -/
theorem HeaderAt.belongs_iff {size other : Nat} (header : HeaderAt content size place stop)
    (starts : size = start ∨ wordAt content (size - 1) = false) (low : start ≤ other) :
    Belongs content place other ↔ size ≤ other ∧ other < stop := by
  obtain ⟨-, sizeLong, words, signatureLong, signature, ends⟩ := header
  constructor
  · rintro (⟨before, reaches⟩ | ⟨behind, within⟩ | ⟨beyond, reaches⟩)
    · refine ⟨?_, by omega⟩
      apply Nat.le_of_not_lt
      intro early
      have word := reaches (size - 1) (by omega) (by omega)
      rcases starts with rfl | apart
      · omega
      · exact Bool.false_ne_true (apart.symm.trans word)
    · omega
    · refine ⟨by omega, ?_⟩
      apply Nat.lt_of_not_le
      intro late
      have word := reaches stop (by omega) (Nat.le_of_lt signatureLong)
      exact Bool.false_ne_true (ends.symm.trans word)
  · rintro ⟨above, below⟩
    rcases Nat.lt_or_ge other place with left | right
    · exact Or.inl ⟨left, fun index before reaches => words index before (by omega)⟩
    · rcases Nat.lt_or_ge other (place + literal.length) with within | beyond
      · exact Or.inr (Or.inl ⟨right, within⟩)
      · exact Or.inr (Or.inr ⟨beyond, fun index before => signature index (by omega)⟩)

/-- The end of a literal keeps what is in front of it from what belongs to a later occurrence. -/
theorem Occurs.not_belongs (occurs : Occurs content place) {occurrence other : Nat}
    (inside : other < place + literal.length) (later : place + literal.length ≤ occurrence) :
    ¬ Belongs content occurrence other := by
  have size : literal.length = 17 := rfl
  rintro (⟨-, words⟩ | ⟨reach, -⟩ | ⟨reach, -⟩)
  · have word := words (place + 16) (by omega) (by omega)
    exact Bool.false_ne_true (occurs.not_wordAt_last.symm.trans word)
  · omega
  · omega

/-- The bytes that belong to the live occurrences from `start` on. -/
def Taken (content : Bytes) (last : Option Nat) (start place : Nat) : Prop :=
  ∃ occurrence ∈ liveAmong content last (occurrencesFrom content start),
    Belongs content occurrence place

instance (content : Bytes) (last : Option Nat) (start : Nat) :
    DecidablePred (Taken content last start) :=
  fun _ => inferInstanceAs (Decidable (∃ _ ∈ _, _))

/-- What stands up to the end of an occurrence does not belong to later ones. -/
theorem Occurs.not_taken (occurs : Occurs content place) {other : Nat}
    (inside : other < place + literal.length) (reach : place + literal.length ≤ start) :
    ¬ Taken content last start other := by
  rintro ⟨occurrence, member, belongs⟩
  have later := (mem_occurrencesFrom.mp (mem_of_mem_liveAmong member)).1
  exact occurs.not_belongs inside (Nat.le_trans reach later) belongs

/-- With no occurrence left, all stays. -/
theorem keep_eq_strip_of_absent (settled : Settled content last start)
    (absent : ∀ place, start ≤ place → ¬ Occurs content place) :
    keep (Taken content last start) start (content.drop start) = strip (content.drop start) := by
  apply keep_drop_eq_strip_of_bare settled.bound
  · rintro place - - ⟨occurrence, member, -⟩
    obtain ⟨reach, occurs⟩ := mem_occurrencesFrom.mp (mem_of_mem_liveAmong member)
    exact absent occurrence reach occurs
  · intro first above _ rest headed
    obtain ⟨place, _, header, -⟩ := exists_headerAt headed
    exact absent place (Nat.le_trans above (Nat.le_of_lt header.sizeLong)) header.occurs
  · rw [List.drop_length, strip_nil]
    rfl

/-- A live occurrence goes with the runs that touch it, and what is behind it comes next. -/
theorem keep_eq_strip_of_isLive (settled : Settled content last start)
    (first : ComesFirst content start place) (isLive : IsLive content last place)
    (next : ∀ stop, place < stop → Settled content (some place) stop →
      keep (Taken content (some place) stop) stop (content.drop stop) =
        strip (content.drop stop)) :
    keep (Taken content last start) start (content.drop start) = strip (content.drop start) := by
  have inside := settled.lt_of_isLive first.reach isLive
  have low : start ≤ place - 1 := Nat.le_sub_one_of_lt inside
  obtain ⟨size, above, before, words, starts⟩ := exists_size low isLive.1.1.1 isLive.1.1.2
  obtain ⟨stop, header⟩ := exists_headerAt_of_betweenWords first.occurs isLive.1 before words
  have long := header.signatureLong
  have taken_iff (other : Nat) (low : start ≤ other) : Taken content last start other ↔
      (size ≤ other ∧ other < stop) ∨ Taken content (some place) stop other := by
    rw [← header.belongs_iff starts low, Taken,
      first.occurrencesFrom_eq (Nat.le_of_lt long) header.signature, liveAmong, if_pos isLive]
    simp only [List.mem_cons, exists_eq_or_imp]
    rfl
  apply keep_drop_eq_strip_of_bare above
  · intro other low high taken
    rcases (taken_iff other low).mp taken with ⟨reaches, -⟩ | later
    · exact Nat.not_le_of_lt high reaches
    · exact first.occurs.not_taken (by omega) (Nat.le_of_lt long) later
  · intro other low high rest headed
    obtain ⟨found, _, another, -⟩ := exists_headerAt headed
    have far := first.le_of_headerAt low another
    have word := another.size (size - 1) (by omega) (by omega)
    rcases starts with rfl | apart
    · omega
    · exact Bool.false_ne_true (apart.symm.trans word)
  · have bound : stop ≤ content.length := by
      have limit := lt_length_of_wordAt (header.signature (stop - 1) (by omega) (by omega))
      omega
    have settledNext : Settled content (some place) stop := by
      refine ⟨bound, nofun, ?_⟩
      rintro _ ⟨⟩
      exact ⟨Nat.le_of_lt long, header.signature, header.ends⟩
    have gone (other : Nat) (low : size ≤ other) (high : other < stop) :
        Taken content last start other :=
      (taken_iff other (by omega)).mpr (Or.inl ⟨low, high⟩)
    have behind (other : Nat) (low : stop ≤ other) :
        Taken content last start other ↔ Taken content (some place) stop other := by
      rw [taken_iff other (by omega), or_iff_right]
      exact fun within => Nat.not_lt_of_le low within.2
    rw [keep_drop_of_taken (by omega) gone, keep_congr behind, next stop (by omega) settledNext,
      strip_of_headed header.headed]

/-- An occurrence that is not live stays, with all in front of it. -/
theorem keep_eq_strip_of_not_isLive (settled : Settled content last start)
    (first : ComesFirst content start place) (dead : ¬ IsLive content last place)
    (next : ∀ stop, place < stop → Settled content none stop →
      keep (Taken content none stop) stop (content.drop stop) = strip (content.drop stop)) :
    keep (Taken content last start) start (content.drop start) = strip (content.drop start) := by
  have size : literal.length = 17 := rfl
  have reach := first.reach
  have nothing : OnlyWords content (place + literal.length) (place + literal.length) := by
    intro other below above
    omega
  have same : Taken content last start = Taken content none (place + literal.length) := by
    funext other
    rw [Taken, first.occurrencesFrom_eq (Nat.le_refl _) nothing, liveAmong, if_neg dead]
    rfl
  have bound : place + literal.length ≤ content.length := by
    have fits := congrArg List.length first.occurs.drop_eq
    rw [List.length_append, List.length_drop, List.length_drop] at fits
    omega
  have settledNext : Settled content none (place + literal.length) :=
    ⟨bound, fun _ => Or.inr first.occurs.not_wordAt_last, nofun⟩
  have past : start ≤ place + literal.length := Nat.le_trans reach (Nat.le_add_right _ _)
  apply keep_drop_eq_strip_of_bare past
  · intro other low high taken
    rw [same] at taken
    exact first.occurs.not_taken high (Nat.le_refl _) taken
  · intro other low high rest headed
    obtain ⟨found, _, header, -⟩ := exists_headerAt headed
    rcases Nat.eq_or_lt_of_le (first.le_of_headerAt low header) with rfl | late
    · exact dead (settled.isLive_of_headerAt low header)
    · have apart := first.occurs.apart header.occurs late
      have word := header.size (place + 16) (by omega) (by omega)
      exact Bool.false_ne_true (first.occurs.not_wordAt_last.symm.trans word)
  · rw [keep_congr fun other _ => iff_of_eq (congrFun same other)]
    exact next _ (by omega) settledNext

/-- **What belongs to live occurrences is what stripping takes out**, from any settled place on. -/
theorem keep_eq_strip (settled : Settled content last start) :
    keep (Taken content last start) start (content.drop start) = strip (content.drop start) := by
  induction left : content.length - start using Nat.strong_induction_on generalizing last start with
  | h size ih =>
      rcases absent_or_comesFirst content start with absent | ⟨place, first⟩
      · exact keep_eq_strip_of_absent settled absent
      · have reach := first.reach
        have shorter (last : Option Nat) (stop : Nat) (beyond : place < stop)
            (settledNext : Settled content last stop) :
            keep (Taken content last stop) stop (content.drop stop) =
              strip (content.drop stop) := by
          have bound := settledNext.bound
          exact ih _ (by omega) settledNext rfl
        by_cases isLive : IsLive content last place
        · exact keep_eq_strip_of_isLive settled first isLive (shorter _)
        · exact keep_eq_strip_of_not_isLive settled first isLive (shorter _)

/-- **Stripping takes out the live occurrences with the runs that touch them.** It is also the
search for the pattern of a header, and the occurrences it looks at never overlap. -/
theorem strip_eq_withoutLive (content : Bytes) :
    strip content = withoutLive content ∧
      strip content = Pattern.header.removeAll content ∧
      (occurrencesFrom content 0).Pairwise fun first second =>
        first + literal.length ≤ second := by
  refine ⟨?_, strip_eq_removeAll content, pairwise_occurrencesFrom content 0⟩
  have start : Settled content none 0 :=
    ⟨Nat.zero_le _, fun _ => Or.inl rfl, nofun⟩
  have whole := keep_eq_strip start
  rw [List.drop_zero] at whole
  exact whole.symm

/-- Of three headers in a chain, the second shares its size with the first and stays. -/
example :
    live (Bytes.ofText "a;chunk-signature=b;chunk-signature=c;chunk-signature=d") = [1, 37] := by
  decide +kernel

end PipelineDepot.ChunkSignature
