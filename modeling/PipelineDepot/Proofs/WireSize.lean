import Mathlib.Algebra.Group.Int.Defs
import Mathlib.Algebra.Group.Nat.Defs
import PipelineDepot.Store.Basic

/-! # Sizes on the wire

A client that speaks in signed words is given the size of an upload as one of them, `-1` standing
for a size that is not declared. Below `2 ^ 63` the word of a declared size is the size itself. From
there on the word is negative, and the largest size of all comes out as `-1`: it is taken for no
size (`UploadSize.largest_taken_for_unknown`). That is the only confusion. Every other size can be
told from its word (`UploadSize.wireLaw`), and no content that fits into memory has the largest one
(`UploadSize.toInt_toInt64_uploadSize`).
-/

namespace PipelineDepot.Blob.UploadSize

/-- The largest size that can be declared. -/
def largest : UploadSize := exact 0xFFFFFFFFFFFFFFFF

/-- The size that a word stands for. -/
def ofInt64 (word : Int64) : UploadSize :=
  if word = -1 then unknown else exact word.toUInt64

/-- Nothing is lost in the word of a declared size. -/
theorem toUInt64_toInt64_exact (size : UInt64) : (exact size).toInt64.toUInt64 = size :=
  UInt64.toUInt64_toInt64 size

/-- Two sizes stand for an unknown one: the one that is unknown, and the largest. -/
theorem toInt64_eq_neg_one_iff (size : UploadSize) :
    size.toInt64 = -1 ↔ size = unknown ∨ size = largest := by
  cases size with
  | unknown => exact ⟨fun _ => .inl rfl, fun _ => rfl⟩
  | exact size =>
      constructor
      · intro sent
        have back : size = 0xFFFFFFFFFFFFFFFF := by
          rw [← toUInt64_toInt64_exact size, sent]
          rfl
        exact .inr (congrArg exact back)
      · intro last
        obtain ⟨⟩ := last.resolve_left nofun
        rfl

/-- A word gives back the size that it was made from, unless that is the largest one. -/
theorem ofInt64_toInt64 (size : UploadSize) :
    ofInt64 size.toInt64 = if size = largest then unknown else size := by
  cases size with
  | unknown => rfl
  | exact size =>
      simp only [ofInt64, toInt64_eq_neg_one_iff, toUInt64_toInt64_exact, reduceCtorEq, false_or]

/-- The word as a number: from `2 ^ 63` on, the size is off by `2 ^ 64`. -/
theorem toInt_toInt64_exact (size : UInt64) :
    (exact size).toInt64.toInt =
      if size.toNat < 2 ^ 63 then (size.toNat : Int) else size.toNat - 2 ^ 64 := by
  have word : (exact size).toInt64.toInt = size.toBitVec.toInt := rfl
  rw [word, BitVec.toInt_eq_toNat_cond, UInt64.toNat_toBitVec]
  split <;> split <;> omega

/-- A size that fits is sent as it is. -/
theorem toInt_toInt64_of_lt {size : UInt64} (small : size.toNat < 2 ^ 63) :
    (exact size).toInt64.toInt = size.toNat := by
  rw [toInt_toInt64_exact, if_pos small]

/-- What fits into memory is sent with its length, or with no length. -/
theorem toInt_toInt64_uploadSize (store : Store) {content : Bytes}
    (fits : content.length < 2 ^ 63) :
    (store.uploadSize content).toInt64.toInt =
      if store.singlePart then (content.length : Int) else -1 := by
  have length : (UInt64.ofNat content.length).toNat = content.length :=
    Nat.mod_eq_of_lt (by omega)
  rw [Store.uploadSize]
  split
  next =>
    rw [toInt_toInt64_of_lt (by rw [length]; exact fits), length]
  next => rfl

/-- What the word of a size tells about it. -/
structure WireLaw (size : UploadSize) : Prop where
  sentinel : size.toInt64 = -1 ↔ size = unknown ∨ size = largest
  word : ∀ count, size = exact count → size.toInt64.toInt =
    if count.toNat < 2 ^ 63 then (count.toNat : Int) else count.toNat - 2 ^ 64
  kept : ∀ count, size = exact count →
    (size.toInt64.toInt = count.toNat ↔ count.toNat < 2 ^ 63)
  sign : ∀ count, size = exact count → (0 ≤ size.toInt64.toInt ↔ count.toNat < 2 ^ 63)
  /-- Two sizes share a word only when one of them is the largest and the other is unknown. -/
  apart : ∀ other, size.toInt64 = other.toInt64 ↔
    size = other ∨ (size = unknown ∧ other = largest) ∨ (size = largest ∧ other = unknown)
  recovered : (ofInt64 size.toInt64).declared? = size.declared? ↔ size ≠ largest

/-- **Only the largest size is taken for no size.** -/
theorem wireLaw (size : UploadSize) : WireLaw size where
  sentinel := toInt64_eq_neg_one_iff size
  word count declared := by
    rw [declared, toInt_toInt64_exact]
  kept count declared := by
    rw [declared, toInt_toInt64_exact]
    split <;> omega
  sign count declared := by
    have bounded := count.toNat_lt
    rw [declared, toInt_toInt64_exact]
    split <;> omega
  apart other := by
    constructor
    · intro same
      have seen := congrArg ofInt64 same
      rw [ofInt64_toInt64, ofInt64_toInt64] at seen
      split at seen
      next last =>
        split at seen
        next otherLast => exact .inl (last.trans otherLast.symm)
        next => exact .inr (.inr ⟨last, seen.symm⟩)
      next =>
        split at seen
        next otherLast => exact .inr (.inl ⟨seen, otherLast⟩)
        next => exact .inl seen
    · intro shared
      obtain rfl | ⟨rfl, rfl⟩ | ⟨rfl, rfl⟩ := shared <;> rfl
  recovered := by
    rw [ofInt64_toInt64]
    split
    next last =>
      subst last
      exact ⟨nofun, fun other => absurd rfl other⟩
    next other => exact ⟨fun _ => other, fun _ => rfl⟩

/-- A declared size that is sent as no size, and one that is sent as a negative size. -/
theorem largest_taken_for_unknown :
    largest ≠ unknown ∧ largest.toInt64 = -1 ∧ unknown.toInt64 = -1 ∧
      (exact 0x8000000000000000).toInt64.toInt = -9223372036854775808 :=
  ⟨nofun, rfl, rfl, rfl⟩

end PipelineDepot.Blob.UploadSize
