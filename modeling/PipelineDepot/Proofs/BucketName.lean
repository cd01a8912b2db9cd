import PipelineDepot.Proofs.CleanPath
import PipelineDepot.Validation

/-! # Bucket names as paths

A text that passes for the name of a bucket is a single name as a path: it holds no slash and is
none of the pieces that stand for no name (`Validation.names_of_bucketName`).
-/

namespace PipelineDepot.Validation

open Files

variable {field value : String}

theorem ensure_eq_ok_iff (kept : Bool) (reason : String) :
    ensure kept field value reason = .ok () ↔ kept = true := by
  cases kept <;> simp [ensure]

theorem ensure_bind_eq_ok_iff (kept : Bool) (reason : String) (next : Except StoreError Unit) :
    (ensure kept field value reason >>= fun _ => next) = .ok () ↔
      kept = true ∧ next = .ok () := by
  cases kept <;> simp [ensure, bind, Except.bind]

/-- What the rules for buckets come to. -/
theorem bucketName_eq_ok_iff :
    bucketName field value = .ok () ↔
      value ≠ "" ∧ (3 ≤ value.utf8ByteSize ∧ value.utf8ByteSize ≤ 63) ∧
        (∀ letter ∈ value.toList, isNameChar letter ∨ letter = '.') ∧
        value.toList.head? ≠ some '-' ∧ value.toList.getLast? ≠ some '-' := by
  simp only [bucketName, ensure_bind_eq_ok_iff, ensure_eq_ok_iff, bne_iff_ne, Bool.and_eq_true,
    decide_eq_true_eq, List.all_eq_true, Bool.or_eq_true, beq_iff_eq]

/-- A bucket has no character that the rules leave out. -/
theorem not_mem_of_bucketName (passed : bucketName field value = .ok ()) {letter : Char}
    (left : isNameChar letter = false) (dot : letter ≠ '.') : letter ∉ value.toList := by
  obtain ⟨-, -, allowed, -⟩ := bucketName_eq_ok_iff.mp passed
  intro member
  rcases allowed letter member with named | same
  · cases left.symm.trans named
  · exact dot same

/-- A bucket is a plain path of one name, and the name is short. -/
theorem names_of_bucketName (passed : bucketName field value = .ok ()) :
    Path.Plain value ∧ Path.names value = [value] ∧ value.utf8ByteSize ≤ 63 := by
  obtain ⟨-, ⟨long, short⟩, -⟩ := bucketName_eq_ok_iff.mp passed
  have bare : Path.Bare value := not_mem_of_bucketName passed (by decide) (by decide)
  have parts := Path.pieces_of_bare bare
  have apart (text : String) (tiny : text.utf8ByteSize < 3) : value ≠ text := by
    rintro rfl
    omega
  have means : Path.Means value := ⟨apart "" (by decide), apart "." (by decide)⟩
  refine ⟨⟨?_, ?_⟩, ?_, short⟩
  · apply Bool.eq_false_iff.mpr
    intro rooted
    exact bare (List.mem_of_mem_head? (beq_iff_eq.mp rooted))
  · rw [parts, List.mem_singleton]
    exact (apart ".." (by decide)).symm
  · rw [Path.names, parts, Path.filter_means_singleton means]

end PipelineDepot.Validation
