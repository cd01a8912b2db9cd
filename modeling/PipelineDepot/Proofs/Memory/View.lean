import PipelineDepot.Proofs.Association
import PipelineDepot.Proofs.Session.Run

/-! # The view of a client in memory

A client in memory is seen through three things: the object at an address (`Memory.find?`), the
operations set to fail, and the recorded calls. Each operation of the client has one lemma for
each of them. `Memory.find?_answer` sums up the effect of a call on the objects.
-/

namespace PipelineDepot.Blob

/-- The failure injected into an operation. -/
def injected (operation : Operation) (bucket key : String) : BlobError :=
  .backend s!"injected {operation.name} failure for {bucket}/{key}"

namespace Memory

variable (memory : Memory) (operation other : Operation) (bucket key : String)
  (named keyed : String) (content : Bytes)

/-! ## Objects -/

@[simp]
theorem find?_empty : empty.find? bucket key = none := rfl

@[simp]
theorem find?_record (call : Call) :
    (memory.record call).find? bucket key = memory.find? bucket key :=
  rfl

@[simp]
theorem find?_failOn : (memory.failOn operation).find? bucket key = memory.find? bucket key := rfl

@[simp]
theorem find?_recover : (memory.recover operation).find? bucket key = memory.find? bucket key := rfl

theorem find?_erase :
    (memory.erase named keyed).find? bucket key =
      if named = bucket ∧ keyed = key then none else memory.find? bucket key := by
  simp only [find?, erase, Association.lookup_filter_ne, Prod.mk.injEq, eq_comm]

/-- Inserting an object changes that one and no other. -/
theorem find?_insert :
    (memory.insert named keyed content).find? bucket key =
      if named = bucket ∧ keyed = key then some content else memory.find? bucket key := by
  by_cases same : named = bucket ∧ keyed = key
  · obtain ⟨rfl, rfl⟩ := same
    simp only [find?, insert, List.lookup_cons_self, and_self, ↓reduceIte]
  · have different : (bucket, key) ≠ (named, keyed) := by
      rintro ⟨rfl, rfl⟩
      exact same ⟨rfl, rfl⟩
    simp only [find?, insert, List.lookup_cons, beq_eq_false_iff_ne.mpr different,
      Association.lookup_filter_ne, different, same, ↓reduceIte]

/-! ## Operations set to fail -/

@[simp]
theorem failing_empty : empty.failing = [] := rfl

@[simp]
theorem failing_record (call : Call) : (memory.record call).failing = memory.failing := rfl

@[simp]
theorem failing_insert : (memory.insert bucket key content).failing = memory.failing := rfl

@[simp]
theorem mem_failing_failOn :
    other ∈ (memory.failOn operation).failing ↔ other = operation ∨ other ∈ memory.failing := by
  by_cases same : other = operation <;> simp [failOn, same]

@[simp]
theorem mem_failing_recover :
    other ∈ (memory.recover operation).failing ↔ other ∈ memory.failing ∧ other ≠ operation := by
  simp [recover]

/-! ## Recorded calls -/

@[simp]
theorem calls_insert : (memory.insert bucket key content).calls = memory.calls := rfl

@[simp]
theorem calls_failOn : (memory.failOn operation).calls = memory.calls := rfl

@[simp]
theorem calls_recover : (memory.recover operation).calls = memory.calls := rfl

/-! ## Calls -/

/-- What a call without a result answers: it fails exactly when it is set to. -/
def accept : Except BlobError Unit :=
  if operation ∈ memory.failing then .error (injected operation bucket key) else .ok ()

/-- What fetching an object gives. -/
def fetch : Except BlobError Bytes :=
  if .get ∈ memory.failing then .error (injected .get bucket key)
  else match memory.find? bucket key with
    | none => .error (.notFound bucket key)
    | some content => .ok content

theorem put_eq (request : PutRequest) :
    memory.put request =
      (memory.accept .put request.bucket request.key,
        if .put ∈ memory.failing then memory.record (.put request)
        else (memory.record (.put request)).insert request.bucket request.key request.body) := by
  by_cases set : Operation.put ∈ memory.failing
  · simp only [put, injected?, failing_record, accept, set, ↓reduceIte]
    rfl
  · simp only [put, injected?, failing_record, accept, set, ↓reduceIte]

theorem get_eq :
    memory.get bucket key =
      ((memory.fetch bucket key).map .ofBytes, memory.record (.get bucket key)) := by
  by_cases set : Operation.get ∈ memory.failing
  · simp only [get, injected?, failing_record, fetch, set, ↓reduceIte]
    rfl
  · simp only [get, injected?, failing_record, fetch, set, ↓reduceIte, find?_record]
    cases memory.find? bucket key <;> rfl

theorem delete_eq :
    memory.delete bucket key =
      (memory.accept .delete bucket key,
        if .delete ∈ memory.failing then memory.record (.delete bucket key)
        else (memory.record (.delete bucket key)).erase bucket key) := by
  by_cases set : Operation.delete ∈ memory.failing
  · simp only [delete, injected?, failing_record, accept, set, ↓reduceIte]
    rfl
  · simp only [delete, injected?, failing_record, accept, set, ↓reduceIte]

theorem isOk_accept : (memory.accept operation bucket key).isOk ↔ operation ∉ memory.failing := by
  by_cases set : operation ∈ memory.failing <;> simp [accept, set, Except.isOk, Except.toBool]

/-- Every call is recorded. -/
theorem calls_answer (call : Call) :
    (client.answer call memory).2.calls = memory.calls ++ [call] := by
  cases call with
  | put request =>
      change (memory.put request).2.calls = _
      rw [put_eq]
      split <;> rfl
  | get bucket key =>
      change (memory.get bucket key).2.calls = _
      rw [get_eq]
      rfl
  | delete bucket key =>
      change (memory.delete bucket key).2.calls = _
      rw [delete_eq]
      split <;> rfl

/-- No call changes which operations are set to fail. -/
theorem failing_answer (call : Call) : (client.answer call memory).2.failing = memory.failing := by
  cases call with
  | put request =>
      change (memory.put request).2.failing = _
      rw [put_eq]
      split <;> rfl
  | get bucket key =>
      change (memory.get bucket key).2.failing = _
      rw [get_eq]
      rfl
  | delete bucket key =>
      change (memory.delete bucket key).2.failing = _
      rw [delete_eq]
      split <;> rfl

/-- After a call an object stands at an address if the call has put it there, or if it stood
there before and the call has neither put nor deleted anything there. -/
theorem find?_answer (call : Call) :
    (client.answer call memory).2.find? bucket key = some content ↔
      (Action.direct call).Writes (client.answer call memory).1 bucket key content ∨
        (memory.find? bucket key = some content ∧
          ¬ (Action.direct call).Touches (client.answer call memory).1 bucket key) := by
  cases call with
  | put request =>
      change (memory.put request).2.find? bucket key = _ ↔
        (Action.direct (.put request)).Writes (memory.put request).1 bucket key content ∨ _ ∧
          ¬ (Action.direct (.put request)).Touches (memory.put request).1 bucket key
      simp only [put_eq, Action.Touches, Action.writes_put, Action.not_deletes_put, or_false,
        isOk_accept]
      by_cases set : Operation.put ∈ memory.failing
      · simp [set]
      · simp only [set, find?_insert, ↓reduceIte, find?_record, not_false_eq_true, true_and]
        by_cases same : request.bucket = bucket ∧ request.key = key
        · simp [same]
        · simp only [same, ↓reduceIte, false_and, exists_false, false_or, not_false_eq_true,
            and_true]
  | get named keyed =>
      change (memory.get named keyed).2.find? bucket key = _ ↔
        (Action.direct (.get named keyed)).Writes (memory.get named keyed).1 bucket key content ∨
          _ ∧ ¬ (Action.direct (.get named keyed)).Touches (memory.get named keyed).1 bucket key
      simp [get_eq, Action.Touches]
  | delete named keyed =>
      change (memory.delete named keyed).2.find? bucket key = _ ↔
        (Action.direct (.delete named keyed)).Writes (memory.delete named keyed).1 bucket key
          content ∨ _ ∧
        ¬ (Action.direct (.delete named keyed)).Touches (memory.delete named keyed).1 bucket key
      simp only [delete_eq, Action.Touches, Action.deletes_delete, Action.not_writes_delete,
        exists_false, false_or, isOk_accept]
      by_cases set : Operation.delete ∈ memory.failing
      · simp [set]
      · simp only [set, find?_erase, ↓reduceIte, find?_record, not_false_eq_true, true_and]
        by_cases same : named = bucket ∧ keyed = key
        · simp [same]
        · simp only [same, ↓reduceIte, not_false_eq_true, and_true]

/-- The same of every action: an object stands at an address if the action has written it, or if
it stood there before and the action has not touched it. -/
theorem find?_perform (action : Action) :
    (action.perform client memory).2.find? bucket key = some content ↔
      action.Writes (action.perform client memory).1 bucket key content ∨
        (memory.find? bucket key = some content ∧
          ¬ action.Touches (action.perform client memory).1 bucket key) := by
  rw [action.perform_snd, action.writes_perform, action.touches_perform]
  cases made : action.call? with
  | none => simp
  | some call =>
      simp only [Option.some.injEq, exists_eq_left']
      exact memory.find?_answer bucket key content call

/-- No action changes which operations fail. -/
theorem failing_perform (action : Action) :
    (action.perform client memory).2.failing = memory.failing :=
  action.perform_invariant (motive := fun after : Memory => after.failing = memory.failing)
    memory.failing_answer rfl

/-- An action records the call that it makes, if it makes one. -/
theorem calls_perform (action : Action) :
    (action.perform client memory).2.calls = memory.calls ++ action.call?.toList := by
  rw [action.perform_snd]
  cases action.call? with
  | none => exact (List.append_nil _).symm
  | some call => exact memory.calls_answer call

end Memory

end PipelineDepot.Blob
