import PipelineDepot.Proofs.Concurrency.Order
import PipelineDepot.Proofs.Memory.Address

/-! # Tasks that keep apart

Tasks keep apart when no two of them call the client with the same address (`Apart`). What a task
does is then explained by its own history alone, whatever turns the others take in between.
-/

namespace PipelineDepot.World

open Blob Blob.Memory

variable {ι : Type}

/-- An action with what it returned, as an event of a client in memory. -/
def acted (event : Done) : Memory.Event := ⟨.act event.step, event.reply⟩

/-- An action in its place, as an event of a client in memory. -/
def placed (event : Placed ι) : Memory.Event := ⟨.act event.step.2, event.reply⟩

/-- Actions performed one at a time leave a memory that their history explains. -/
theorem explains_oneByOne (order : List (ι × Action)) :
    Explains ((oneByOne order .empty).1.map placed) (oneByOne order .empty).2 := by
  have kept (history : List (Placed ι)) (memory : Memory) (step : ι × Action)
      (explains : Explains (history.map placed) memory) :
      Explains ((history ++ [Session.event (fun step => step.2.perform client) step memory]).map
        placed) (step.2.perform client memory).2 := by
    rw [List.map_append, List.map_singleton]
    exact explains.step (.act step.2)
  exact Session.run_invariant kept order explains_empty

/-- No object is listed twice, whatever actions are performed. -/
theorem distinct_oneByOne (order : List (ι × Action)) : (oneByOne order .empty).2.Distinct := by
  have kept (_ : List (Placed ι)) (memory : Memory) (step : ι × Action)
      (distinct : memory.Distinct) : (step.2.perform client memory).2.Distinct :=
    step.2.perform_invariant distinct.answer distinct
  exact Session.run_invariant kept order List.nodup_nil

/-- No two tasks call the client with the same address. -/
def Apart (programs : ι → List Action) : Prop :=
  ∀ first second, first ≠ second → ∀ one ∈ programs first, ∀ two ∈ programs second,
    ∀ call again, one.call? = some call → two.call? = some again → call.address ≠ again.address

/-- A history of tasks that follow their programs. -/
def Follows (programs : ι → List Action) (history : List (Placed ι)) : Prop :=
  ∀ event ∈ history, event.step.2 ∈ programs event.step.1

section Own

variable [DecidableEq ι] {programs : ι → List Action} {history : List (Placed ι)}

theorem map_acted_own (turn : ι) (history : List (Placed ι)) :
    (own turn history).map acted = (history.filter fun event => event.step.1 = turn).map placed :=
  List.map_map

/-- The last write of an address that a task calls with is the last write of the task. -/
theorem lastWrite_own (apart : Apart programs) (follows : Follows programs history)
    {turn : ι} {action : Action} (mine : action ∈ programs turn) {call : Call}
    (made : action.call? = some call) (content : Bytes) :
    LastWrite (history.map placed) call.address.1 call.address.2 content ↔
      LastWrite ((own turn history).map acted) call.address.1 call.address.2 content := by
  rw [map_acted_own, LastWrite, LastWrite, Session.latest_map, Session.latest_map]
  symm
  apply Session.latest_filter
  intro event member foreign
  have untouched : ¬ (placed event).Touches call.address.1 call.address.2 := by
    intro touched
    obtain ⟨other, called, same⟩ := Action.address_of_touches touched
    have theirs := follows event member
    exact apart _ turn foreign _ theirs action mine other call called made same
  exact ⟨fun written => untouched (Or.inl ⟨content, written⟩), untouched⟩

/-- An action of a task stands somewhere in the whole history. -/
theorem exists_of_own {turn : ι} {before after : List Done} {event : Done}
    (split : own turn history = before ++ event :: after) :
    ∃ earlier found later, history = earlier ++ found :: later ∧ own turn earlier = before ∧
      found.step.1 = turn ∧ (⟨found.step.2, found.reply⟩ : Done) = event := by
  obtain ⟨front, back, filtered, rfl, rest⟩ := List.map_eq_append_iff.mp split
  obtain ⟨found, tail, rfl, seen, rfl⟩ := List.map_eq_cons_iff.mp rest
  obtain ⟨start, next, rfl, rfl, kept⟩ := List.filter_eq_append_iff.mp filtered
  obtain ⟨skipped, later, rfl, silent, mine, rfl⟩ := List.filter_eq_cons_iff.mp kept
  refine ⟨start ++ skipped, found, later, by simp, ?_, of_decide_eq_true mine, seen⟩
  have none_own : skipped.filter (fun event => event.step.1 = turn) = [] := by
    simpa using silent
  simp only [own, List.filter_append, none_own, List.append_nil]

/-- **Every reply is the one that the task's own history asks for.** -/
theorem answered_own (apart : Apart programs) (follows : Follows programs history)
    {memory : Memory} (explains : Explains (history.map placed) memory) {turn : ι}
    {before after : List Done} {event : Done}
    (split : own turn history = before ++ event :: after) :
    Answered (before.map acted) (acted event) := by
  obtain ⟨earlier, found, later, rfl, rfl, rfl, rfl⟩ := exists_of_own split
  -- The whole history asks for the reply, and at the address of the call it says no more than the
  -- task's own part does.
  have answered : Answered (earlier.map placed) (placed found) := by
    apply explains.answered (earlier.map placed) (placed found) (later.map placed)
    simp
  apply answered.congr
  · intro operation
    rw [map_acted_own]
    have acts (event : Placed ι) : ∃ action, (placed event).step = .act action := ⟨_, rfl⟩
    exact iff_of_false (not_setToFail_map acts _ operation) (not_setToFail_map acts _ operation)
  · intro call made content
    have earlier_follows : Follows programs earlier := fun event member =>
      follows event (List.mem_append_left _ member)
    have mine := follows found (by simp)
    exact lastWrite_own apart earlier_follows mine made content

/-- The objects are the last writes of the tasks. -/
theorem find?_iff_own (apart : Apart programs) (follows : Follows programs history)
    {memory : Memory} (explains : Explains (history.map placed) memory) (bucket key : String)
    (content : Bytes) :
    memory.find? bucket key = some content ↔
      ∃ turn, LastWrite ((own turn history).map acted) bucket key content := by
  -- A write names its address, so the task that made it is one that calls with the address.
  have owner (event : Placed ι) (member : event ∈ history)
      (written : (placed event).Writes bucket key content) :
      LastWrite (history.map placed) bucket key content ↔
        LastWrite ((own event.step.1 history).map acted) bucket key content := by
    obtain ⟨call, made, same⟩ := Action.address_of_touches (Or.inl ⟨content, written⟩)
    have seen := lastWrite_own apart follows (follows event member) made content
    rwa [same] at seen
  rw [explains.held]
  constructor
  · intro latest
    obtain ⟨_, member, written⟩ := latest.exists_mem
    obtain ⟨event, listed, rfl⟩ := List.mem_map.mp member
    exact ⟨event.step.1, (owner event listed written).mp latest⟩
  · intro ⟨turn, latest⟩
    obtain ⟨_, member, written⟩ := latest.exists_mem
    rw [map_acted_own] at member
    obtain ⟨event, listed, rfl⟩ := List.mem_map.mp member
    obtain ⟨present, mine⟩ := List.mem_filter.mp listed
    obtain rfl := of_decide_eq_true mine
    exact (owner event present written).mpr latest

end Own

end PipelineDepot.World
