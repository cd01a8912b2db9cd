import Mathlib.Data.List.Induction
import PipelineDepot.Proofs.Session.Action

/-! # Runs of steps

A session takes one step after another on a state. Its history lists the steps with what each
of them returned (`Session.run`). What a session keeps follows from what one step keeps: with
the history in view (`Session.run_invariant`), under a restriction on the events
(`Session.run_preserves`), and for two sessions side by side (`Session.run_related`).

`Latest` picks the last event of a kind out of a history, and `Action.Writes` and
`Action.Deletes` say which events store an object and which take one away. What is stored is what
the action was given (`Action.Stores`), and the calls agree with that (`Action.stores_iff`).
-/

namespace PipelineDepot

open Blob

namespace Session

/-- A step with what it returned. -/
structure Event {Step : Type 1} (Reply : Step → Type) : Type 1 where
  step : Step
  reply : Reply step

section Run

variable {σ τ : Type} {Step : Type 1} {Reply : Step → Type}
  (perform : (step : Step) → StateM σ (Reply step))

/-- The event of a step taken in a state. -/
def event (step : Step) (state : σ) : Event Reply := ⟨step, (perform step state).1⟩

/-- Takes the steps one after the other: the history and the state they leave. -/
def run : List Step → σ → List (Event Reply) × σ
  | [], state => ([], state)
  | step :: rest, state =>
    let outcome := run rest (perform step state).2
    (event perform step state :: outcome.1, outcome.2)

variable {perform}

/-- What holds at the start and outlives every step holds at the end, with the history in view. -/
theorem run_invariant {motive : List (Event Reply) → σ → Prop}
    (kept : ∀ history state step, motive history state →
      motive (history ++ [event perform step state]) (perform step state).2)
    (steps : List Step) {state : σ} (start : motive [] state) :
    motive (run perform steps state).1 (run perform steps state).2 := by
  -- The induction runs over what is still to come, so the past is carried along.
  have carried : ∀ past state, motive past state →
      motive (past ++ (run perform steps state).1) (run perform steps state).2 := by
    induction steps with
    | nil =>
        intro past state holds
        simpa only [run, List.append_nil] using holds
    | cons step rest ih =>
        intro past state holds
        have later := ih _ _ (kept past state step holds)
        simpa only [run, List.append_assoc, List.cons_append, List.nil_append] using later
  simpa only [List.nil_append] using carried [] state start

/-- The last step of a run is taken where the others end. -/
theorem run_concat (steps : List Step) (step : Step) (state : σ) :
    run perform (steps ++ [step]) state =
      ((run perform steps state).1 ++ [event perform step (run perform steps state).2],
        (perform step (run perform steps state).2).2) := by
  induction steps generalizing state with
  | nil => rfl
  | cons first rest ih => simp only [List.cons_append, run, ih]

/-- What every allowed event keeps, a run of allowed events keeps. -/
theorem run_preserves {motive : σ → Prop} {allowed : Event Reply → Prop}
    (kept : ∀ state step, motive state → allowed (event perform step state) →
      motive (perform step state).2)
    (steps : List Step) {state : σ} (start : motive state)
    (allowance : ∀ event ∈ (run perform steps state).1, allowed event) :
    motive (run perform steps state).2 := by
  induction steps generalizing state with
  | nil => exact start
  | cons step rest ih =>
      simp only [run, List.mem_cons, forall_eq_or_imp] at allowance
      exact ih (kept state step start allowance.1) allowance.2

/-- Two sessions with the same steps give the same replies when related states do and stay
related. -/
theorem run_related {other : (step : Step) → StateM τ (Reply step)} {related : σ → τ → Prop}
    (steps : List Step)
    (matched : ∀ step ∈ steps, ∀ first second, related first second →
      (perform step first).1 = (other step second).1 ∧
        related (perform step first).2 (other step second).2)
    {first : σ} {second : τ} (start : related first second) :
    (run perform steps first).1 = (run other steps second).1 ∧
      related (run perform steps first).2 (run other steps second).2 := by
  induction steps generalizing first second with
  | nil => exact ⟨rfl, start⟩
  | cons step rest ih =>
      obtain ⟨same, next⟩ := matched step List.mem_cons_self first second start
      obtain ⟨replies, final⟩ :=
        ih (fun step member => matched step (List.mem_cons_of_mem _ member)) next
      refine ⟨?_, final⟩
      simp only [run, event, same, replies]

end Run

section Latest

variable {α : Type 1} (meets ends : α → Prop)

/-- Some event meets the description, and no event after it ends what it brought about. -/
def Latest (history : List α) : Prop :=
  ∃ before event after, history = before ++ event :: after ∧ meets event ∧
    ∀ later ∈ after, ¬ ends later

variable {meets ends} in
theorem Latest.exists_mem {history : List α} (latest : Latest meets ends history) :
    ∃ event ∈ history, meets event := by
  obtain ⟨before, event, after, rfl, met, _⟩ := latest
  exact ⟨event, by simp, met⟩

theorem not_latest_nil : ¬ Latest meets ends [] := by
  rintro ⟨before, event, after, split, _⟩
  simp at split

/-- One more event either brings the thing about or leaves it as it was, unless it ends it. -/
theorem latest_append_singleton (history : List α) (event : α) :
    Latest meets ends (history ++ [event]) ↔
      meets event ∨ (Latest meets ends history ∧ ¬ ends event) := by
  constructor
  · -- The event that was found is the last one, or one of the history in front of it.
    rintro ⟨before, found, after, split, met, open_⟩
    rcases List.eq_nil_or_concat after with rfl | ⟨front, last, rfl⟩
    · obtain ⟨rfl, same⟩ := List.append_inj' split rfl
      cases same
      exact Or.inl met
    · rw [List.concat_eq_append, ← List.cons_append, ← List.append_assoc] at split
      obtain ⟨rfl, same⟩ := List.append_inj' split rfl
      cases same
      rw [List.concat_eq_append] at open_
      refine Or.inr ⟨⟨before, found, front, rfl, met, fun later member => ?_⟩, ?_⟩
      · exact open_ later (List.mem_append_left _ member)
      · exact open_ event (List.mem_append_right _ List.mem_cons_self)
  · rintro (met | ⟨⟨before, found, after, rfl, met, open_⟩, kept⟩)
    · exact ⟨history, event, [], rfl, met, fun later member => (List.not_mem_nil member).elim⟩
    · refine ⟨before, found, after ++ [event], by simp, met, fun later member => ?_⟩
      rcases List.mem_append.mp member with earlier | last
      · exact open_ later earlier
      · rwa [List.mem_singleton.mp last]

/-- Events that neither meet the description nor end anything play no part. -/
theorem latest_filter (kept : α → Prop) [DecidablePred kept] (history : List α)
    (silent : ∀ event ∈ history, ¬ kept event → ¬ meets event ∧ ¬ ends event) :
    Latest meets ends (history.filter kept) ↔ Latest meets ends history := by
  induction history using List.reverseRecOn with
  | nil => exact Iff.rfl
  | append_singleton history event ih =>
      have before := ih fun event member => silent event (List.mem_append_left _ member)
      rw [latest_append_singleton, List.filter_append, ← before]
      by_cases keep : kept event
      · have held : [event].filter (fun event => kept event) = [event] := by
          simp only [keep, List.filter_cons, decide_true, ↓reduceIte, List.filter_nil]
        rw [held, latest_append_singleton]
      · have dropped : [event].filter (fun event => kept event) = [] := by
          simp only [keep, List.filter_cons, decide_false, Bool.false_eq_true, ↓reduceIte,
            List.filter_nil]
        have quiet := silent event (List.mem_append_right _ List.mem_cons_self) keep
        rw [dropped, List.append_nil]
        simp only [quiet, not_false_eq_true, and_true, false_or]

/-- The latest event of a kind is found in any view of a history that keeps the kind. -/
theorem latest_map {β : Type 1} (view : β → α) (history : List β) :
    Latest meets ends (history.map view) ↔
      Latest (fun event => meets (view event)) (fun event => ends (view event)) history := by
  induction history using List.reverseRecOn with
  | nil => exact iff_of_false (not_latest_nil meets ends) (not_latest_nil _ _)
  | append_singleton history event ih =>
      rw [List.map_append, List.map_singleton, latest_append_singleton, latest_append_singleton, ih]

end Latest

end Session

namespace Action

/-- The action is to store these bytes under this bucket and key: they are the body of a put, the
content given to a store, or the text of a document given to a store. -/
def Stores (bucket key : String) (content : Bytes) : Action → Prop
  | direct (.put request) => request.bucket = bucket ∧ request.key = key ∧ request.body = content
  | through store (.add given path) => store.bucket = bucket ∧ path = key ∧ given = content
  | through store (.addDocument codec value path) =>
    store.bucket = bucket ∧ path = key ∧
      ∃ text, codec.encode value = .ok text ∧ .ofText text = content
  | direct (.get _ _) | direct (.delete _ _) => False
  | through _ (.get _) | through _ (.getDocument _ _) | through _ (.delete _) => False

/-- The action is to delete what this bucket and key name. -/
def Removes (bucket key : String) : Action → Prop
  | direct (.delete named keyed) => named = bucket ∧ keyed = key
  | through store (.delete path) => store.bucket = bucket ∧ path = key
  | direct (.put _) | direct (.get _ _) => False
  | through _ (.add _ _) | through _ (.addDocument _ _ _) => False
  | through _ (.get _) | through _ (.getDocument _ _) => False

/-- An action stores what its call puts. -/
theorem stores_iff (action : Action) {bucket key : String} {content : Bytes} :
    action.Stores bucket key content ↔
      ∃ request, action.call? = some (.put request) ∧
        request.bucket = bucket ∧ request.key = key ∧ request.body = content := by
  cases action with
  | direct call =>
      cases call <;>
        simp only [Stores, call?, Option.some.injEq, Call.put.injEq, reduceCtorEq, exists_eq_left',
          false_and, exists_false]
  | through store request =>
      cases request with
      | addDocument codec value path =>
          simp only [Stores, call?, Store.Request.call?]
          cases codec.encode value <;>
            simp [Store.upload]
      | add | get | getDocument | delete =>
          simp only [Stores, call?, Store.Request.call?, Option.some.injEq, Call.put.injEq,
            reduceCtorEq, exists_eq_left', false_and, exists_false, Store.upload]

/-- An action removes what its call deletes. -/
theorem removes_iff (action : Action) {bucket key : String} :
    action.Removes bucket key ↔ action.call? = some (.delete bucket key) := by
  cases action with
  | direct call =>
      cases call <;> simp only [Removes, call?, Option.some.injEq, Call.delete.injEq, reduceCtorEq]
  | through store request =>
      cases request with
      | addDocument codec value path =>
          simp only [Removes, call?, Store.Request.call?]
          cases codec.encode value <;> simp
      | add | get | getDocument | delete =>
          simp only [Removes, call?, Store.Request.call?, Option.some.injEq, Call.delete.injEq,
            reduceCtorEq]

/-- The action succeeded in storing these bytes under this bucket and key. -/
def Writes (action : Action) (reply : action.Reply) (bucket key : String) (content : Bytes) :
    Prop :=
  reply.isOk ∧ action.Stores bucket key content

/-- The action succeeded in deleting what this bucket and key name. -/
def Deletes (action : Action) (reply : action.Reply) (bucket key : String) : Prop :=
  reply.isOk ∧ action.Removes bucket key

/-- The action wrote or deleted the object under this bucket and key. -/
def Touches (action : Action) (reply : action.Reply) (bucket key : String) : Prop :=
  (∃ content, action.Writes reply bucket key content) ∨ action.Deletes reply bucket key

/-- An action touches the address of its call only. -/
theorem address_of_touches {action : Action} {reply : action.Reply} {bucket key : String}
    (touched : action.Touches reply bucket key) :
    ∃ call, action.call? = some call ∧ call.address = (bucket, key) := by
  rcases touched with ⟨content, -, stores⟩ | ⟨-, removes⟩
  · obtain ⟨request, made, rfl, rfl, -⟩ := action.stores_iff.mp stores
    exact ⟨.put request, made, rfl⟩
  · exact ⟨.delete bucket key, action.removes_iff.mp removes, rfl⟩

/-- What an action writes is determined by the action. -/
theorem writes_unique {action : Action} {reply : action.Reply} {bucket key : String}
    {first second : Bytes} (one : action.Writes reply bucket key first)
    (two : action.Writes reply bucket key second) : first = second := by
  obtain ⟨request, made, -, -, rfl⟩ := action.stores_iff.mp one.2
  obtain ⟨again, same, -, -, rfl⟩ := action.stores_iff.mp two.2
  obtain rfl : request = again := by simpa only [made, Option.some.injEq, Call.put.injEq] using same
  rfl

section Direct

variable (answer : Except BlobError Unit) (request : PutRequest) (bucket key named keyed : String)
  (content : Bytes)

/-- A put that succeeds writes its body under its own bucket and key, and nothing else. -/
@[simp]
theorem writes_put :
    (direct (.put request)).Writes answer bucket key content ↔
      answer.isOk ∧ (request.bucket = bucket ∧ request.key = key) ∧ request.body = content := by
  simp only [Writes, Stores, and_assoc]
  exact Iff.rfl

@[simp]
theorem not_deletes_put : ¬ (direct (.put request)).Deletes answer bucket key := by
  simp only [Deletes, Removes, and_false, not_false_eq_true]

@[simp]
theorem not_writes_get (fetched : Except BlobError Reader) :
    ¬ (direct (.get named keyed)).Writes fetched bucket key content := by
  simp only [Writes, Stores, and_false, not_false_eq_true]

@[simp]
theorem not_deletes_get (fetched : Except BlobError Reader) :
    ¬ (direct (.get named keyed)).Deletes fetched bucket key := by
  simp only [Deletes, Removes, and_false, not_false_eq_true]

@[simp]
theorem not_writes_delete : ¬ (direct (.delete named keyed)).Writes answer bucket key content := by
  simp only [Writes, Stores, and_false, not_false_eq_true]

/-- A delete that succeeds deletes its own object, and nothing else. -/
@[simp]
theorem deletes_delete :
    (direct (.delete named keyed)).Deletes answer bucket key ↔
      answer.isOk ∧ named = bucket ∧ keyed = key := by
  simp only [Deletes, Removes]
  exact Iff.rfl

end Direct

section Perform

variable {σ : Type} (client : Client (StateM σ)) (action : Action) (state : σ)
  (bucket key : String) (content : Bytes)

/-- An action writes what its call writes. -/
theorem writes_perform :
    action.Writes (action.perform client state).1 bucket key content ↔
      ∃ call, action.call? = some call ∧
        (direct call).Writes (client.answer call state).1 bucket key content := by
  constructor
  · rintro ⟨succeeded, stores⟩
    obtain ⟨request, made, written⟩ := action.stores_iff.mp stores
    rw [isOk_perform client made (by rintro ⟨⟩)] at succeeded
    exact ⟨.put request, made, succeeded, written⟩
  · rintro ⟨call, made, succeeded, stores⟩
    obtain ⟨request, same, written⟩ := (direct call).stores_iff.mp stores
    obtain rfl : call = .put request := Option.some.inj same
    exact ⟨(isOk_perform client made (by rintro ⟨⟩) state).trans succeeded,
      action.stores_iff.mpr ⟨request, made, written⟩⟩

/-- An action deletes what its call deletes. -/
theorem deletes_perform :
    action.Deletes (action.perform client state).1 bucket key ↔
      ∃ call, action.call? = some call ∧
        (direct call).Deletes (client.answer call state).1 bucket key := by
  constructor
  · rintro ⟨succeeded, removes⟩
    have made := action.removes_iff.mp removes
    rw [isOk_perform client made (by rintro ⟨⟩)] at succeeded
    exact ⟨.delete bucket key, made, succeeded, rfl, rfl⟩
  · rintro ⟨call, made, succeeded, removes⟩
    obtain rfl : call = .delete bucket key :=
      Option.some.inj ((direct call).removes_iff.mp removes)
    exact ⟨(isOk_perform client made (by rintro ⟨⟩) state).trans succeeded,
      action.removes_iff.mpr made⟩

/-- An action touches what its call touches. -/
theorem touches_perform :
    action.Touches (action.perform client state).1 bucket key ↔
      ∃ call, action.call? = some call ∧
        (direct call).Touches (client.answer call state).1 bucket key := by
  simp only [Touches, writes_perform, deletes_perform]
  constructor
  · rintro (⟨content, call, made, written⟩ | ⟨call, made, deleted⟩)
    · exact ⟨call, made, Or.inl ⟨content, written⟩⟩
    · exact ⟨call, made, Or.inr deleted⟩
  · rintro ⟨call, made, ⟨content, written⟩ | deleted⟩
    · exact Or.inl ⟨content, call, made, written⟩
    · exact Or.inr ⟨call, made, deleted⟩

end Perform

end Action

end PipelineDepot
