import PipelineDepot.Proofs.ChunkSignature.Occurrence

/-! # Stripping leaves no header

Where a header is taken out, the bytes on either side of the gap are no word bytes, since size
and signature are whole runs. So the tokens that stay are normal (`Token.Normal.dropHeaders`),
and since a header has no two adjacent tokens that are no runs, none can reach over such a gap:
no header is left (`hasHeader_dropHeaders`). That makes stripping idempotent (`stripped`).
-/

namespace PipelineDepot.ChunkSignature

open Token

variable {tokens rest out : List Token}

/-- Tokens that do not start with a run keep their first token. -/
theorem startsWithRun_dropHeaders (apart : startsWithRun tokens = false) :
    startsWithRun (dropHeaders tokens) = false := by
  cases tokens with
  | nil =>
      rw [dropHeaders_nil]
      rfl
  | cons token rest =>
      cases token with
      | word run => cases apart
      | other byte =>
          rw [dropHeaders_of_none rfl]
          rfl

/-- Behind a header stand normal tokens that do not start with a run. -/
theorem Token.Normal.of_afterHeader? (normal : Normal tokens)
    (found : afterHeader? tokens = some rest) : startsWithRun rest = false ∧ Normal rest := by
  obtain ⟨size, signature, rfl⟩ := eq_header_append_of_afterHeader? found
  have last : Normal (.word signature :: rest) := normal.tail.tail.tail.tail.tail.tail
  cases last with
  | word _ apart normal => exact ⟨apart, normal⟩

/-- **What stays is normal.** -/
theorem Token.Normal.dropHeaders (normal : Normal tokens) :
    Normal (ChunkSignature.dropHeaders tokens) := by
  fun_induction ChunkSignature.dropHeaders tokens with
  | case1 tokens rest found ih => exact ih (normal.of_afterHeader? found).2
  | case2 => exact normal
  | case3 token rest absent ih =>
      cases normal with
      | other apart normal => exact .other apart (ih normal)
      | word isRun apart normal => exact .word isRun (startsWithRun_dropHeaders apart) (ih normal)

/-! ## No header over a gap -/

/-- A token that is no run is where it was, if no run stood at the head. -/
theorem eq_other_cons_of_dropHeaders {byte : UInt8} (apart : startsWithRun tokens = false)
    (left : dropHeaders tokens = .other byte :: out) :
    ∃ rest, tokens = .other byte :: rest ∧ dropHeaders rest = out := by
  cases tokens with
  | nil =>
      rw [dropHeaders_nil] at left
      cases left
  | cons token rest =>
      cases token with
      | word run => cases apart
      | other kept =>
          rw [dropHeaders_of_none rfl] at left
          obtain ⟨same, behind⟩ := List.cons.inj left
          exact ⟨rest, congrArg (· :: rest) same, behind⟩

/-- A run at the head of what stays is where it was: behind a header there is none. -/
theorem eq_word_cons_of_dropHeaders {run : Bytes} (normal : Normal tokens)
    (left : dropHeaders tokens = .word run :: out) :
    ∃ rest, tokens = .word run :: rest ∧ dropHeaders rest = out := by
  cases found : afterHeader? tokens with
  | some rest =>
      have apart := startsWithRun_dropHeaders (normal.of_afterHeader? found).1
      rw [dropHeaders_of_some found] at left
      rw [left] at apart
      cases apart
  | none =>
      cases tokens with
      | nil =>
          rw [dropHeaders_nil] at left
          cases left
      | cons token rest =>
          rw [dropHeaders_of_none found] at left
          obtain ⟨same, behind⟩ := List.cons.inj left
          exact ⟨rest, congrArg (· :: rest) same, behind⟩

/-- Two tokens of what stays, of which the second is a run, stood side by side. -/
theorem eq_pair_of_dropHeaders {byte : UInt8} {run : Bytes} (normal : Normal tokens)
    (apart : startsWithRun tokens = false)
    (left : dropHeaders tokens = .other byte :: .word run :: out) :
    ∃ rest, tokens = .other byte :: .word run :: rest ∧ dropHeaders rest = out ∧ Normal rest ∧
      startsWithRun rest = false := by
  obtain ⟨behind, rfl, stays⟩ := eq_other_cons_of_dropHeaders apart left
  obtain ⟨rest, rfl, final⟩ := eq_word_cons_of_dropHeaders normal.tail stays
  cases normal.tail with
  | word _ between normal => exact ⟨rest, rfl, final, normal, between⟩

/-- What stays starts with a header behind a run only if a header stood there. -/
theorem exists_afterHeader?_of_dropHeaders {run : Bytes} (normal : Normal (.word run :: tokens))
    (found : afterHeader? (.word run :: dropHeaders tokens) = some rest) :
    ∃ behind, afterHeader? (.word run :: tokens) = some behind := by
  obtain ⟨size, signature, split⟩ := eq_header_append_of_afterHeader? found
  obtain ⟨same, left⟩ := List.cons.inj split
  cases normal with
  | word _ apart normal =>
      obtain ⟨first, rfl, left, normal, apart⟩ := eq_pair_of_dropHeaders normal apart left
      obtain ⟨second, rfl, left, normal, apart⟩ := eq_pair_of_dropHeaders normal apart left
      obtain ⟨behind, rfl, -⟩ := eq_pair_of_dropHeaders normal apart left
      exact ⟨behind, afterHeader?_eq_some_iff.mpr ⟨run, signature, rfl⟩⟩

/-- **No header is left.** -/
theorem hasHeader_dropHeaders (normal : Normal tokens) :
    hasHeader (dropHeaders tokens) = false := by
  fun_induction dropHeaders tokens with
  | case1 tokens rest found ih => exact ih (normal.of_afterHeader? found).2
  | case2 => rfl
  | case3 token rest absent ih =>
      rw [hasHeader, ih normal.tail, Bool.or_false, Option.isSome_eq_false_iff,
        Option.isNone_iff_eq_none]
      cases token with
      | other byte => rfl
      | word run =>
          rw [Option.eq_none_iff_forall_ne_some]
          intro behind found
          obtain ⟨_, here⟩ := exists_afterHeader?_of_dropHeaders normal found
          exact Option.some_ne_none _ (here.symm.trans absent)

/-! ## Contents -/

/-- A stripped content holds no header. -/
theorem contains_strip (content : Bytes) : contains (strip content) = false := by
  have normal := normal_ofBytes content
  rw [contains, strip, ofBytes_toBytes normal.dropHeaders]
  exact hasHeader_dropHeaders normal

/-- What stripping makes of a content. -/
structure Stripped (content : Bytes) : Prop where
  unsigned : contains (strip content) = false
  idempotent : strip (strip content) = strip content
  unchanged_iff : strip content = content ↔ contains content = false
  /-- Nothing is stripped exactly when every occurrence lacks a word byte on one side. -/
  unsigned_iff : contains content = false ↔
    ∀ place, Occurs content place → ¬ BetweenWords content place
  shorter : strip content ≠ content → (strip content).length < content.length
  /-- So the length of what was taken out is a difference of lengths. -/
  atMost : (strip content).length ≤ content.length

/-- **Stripping leaves no header, changes nothing without one and shortens all else.** -/
theorem stripped (content : Bytes) : Stripped content := by
  have shorter (changed : strip content ≠ content) :
      (strip content).length < content.length := by
    apply length_strip_lt
    rw [← Bool.not_eq_false]
    exact fun clean => changed ((strip_eq_self_iff content).mpr clean)
  exact {
    unsigned := contains_strip content
    idempotent := (strip_eq_self_iff _).mpr (contains_strip content)
    unchanged_iff := strip_eq_self_iff content
    unsigned_iff := by
      rw [← Bool.not_eq_true, contains_iff, not_exists]
      exact forall_congr' fun _ => not_and
    shorter := shorter
    atMost := by
      by_cases same : strip content = content
      · exact Nat.le_of_eq (congrArg List.length same)
      · exact Nat.le_of_lt (shorter same) }

end PipelineDepot.ChunkSignature
