import PipelineDepot.Proofs.Concurrency.Task
import PipelineDepot.Proofs.Memory.View

/-! # One action at a time

The actions of all tasks, performed one at a time in the order in which they have taken place,
leave the memory as the turns of the tasks have left it (`World.Serial`). Of the replies they
give, each task has recorded its own, up to the action it is at.
-/

namespace PipelineDepot.World

open Blob

variable {ι : Type}

/-- An action in its place, with what it returns there. -/
abbrev Placed (ι : Type) := Session.Event fun step : ι × Action => step.2.Reply

/-- Performs actions one at a time. -/
def oneByOne (order : List (ι × Action)) (memory : Memory) : List (Placed ι) × Memory :=
  Session.run (fun step : ι × Action => step.2.perform Memory.client) order memory

/-- The action that comes last is performed in the state that the others leave. -/
theorem oneByOne_concat (order : List (ι × Action)) (turn : ι) (action : Action)
    (memory : Memory) :
    oneByOne (order ++ [(turn, action)]) memory =
      ((oneByOne order memory).1 ++
          [⟨(turn, action), (action.perform Memory.client (oneByOne order memory).2).1⟩],
        (action.perform Memory.client (oneByOne order memory).2).2) :=
  Session.run_concat order (turn, action) memory

/-- Every call is recorded in its place. -/
theorem calls_oneByOne (order : List (ι × Action)) (memory : Memory) :
    (oneByOne order memory).2.calls = memory.calls ++ order.filterMap (·.2.call?) := by
  induction order generalizing memory with
  | nil => exact (List.append_nil _).symm
  | cons first rest ih =>
      refine (ih (first.2.perform Memory.client memory).2).trans ?_
      rw [memory.calls_perform, List.append_assoc]
      cases called : first.2.call? <;> simp [called]

/-- The action in its place stored these bytes under this bucket and key. -/
def Writes (bucket key : String) (content : Bytes) (event : Placed ι) : Prop :=
  event.step.2.Writes event.reply bucket key content

/-- The action in its place wrote or deleted the object under this bucket and key. -/
def Touches (bucket key : String) (event : Placed ι) : Prop :=
  event.step.2.Touches event.reply bucket key

/-- What was put last is still there. -/
theorem find?_of_latest (order : List (ι × Action)) (memory : Memory) {bucket key : String}
    {content : Bytes}
    (latest : Session.Latest (Writes bucket key content) (Touches bucket key)
      (oneByOne order memory).1) :
    (oneByOne order memory).2.find? bucket key = some content := by
  have kept (history : List (Placed ι)) (now : Memory) (step : ι × Action)
      (held : Session.Latest (Writes bucket key content) (Touches bucket key) history →
        now.find? bucket key = some content)
      (latest : Session.Latest (Writes bucket key content) (Touches bucket key)
        (history ++ [Session.event (fun step => step.2.perform Memory.client) step now])) :
      (step.2.perform Memory.client now).2.find? bucket key = some content := by
    apply (now.find?_perform bucket key content step.2).mpr
    rcases (Session.latest_append_singleton _ _ history _).mp latest with written | ⟨before, rest⟩
    · exact Or.inl written
    · exact Or.inr ⟨held before, rest⟩
  have nothing (latest : Session.Latest (Writes (ι := ι) bucket key content)
      (Touches bucket key) []) : memory.find? bucket key = some content :=
    (Session.not_latest_nil _ _ latest).elim
  exact Session.run_invariant kept order nothing latest

variable [DecidableEq ι]

/-- What a task sees of the placed actions: its own. -/
def own (turn : ι) (history : List (Placed ι)) : List Done :=
  (history.filter fun event => event.step.1 = turn).map fun event => ⟨event.step.2, event.reply⟩

theorem own_concat (turn other : ι) (history : List (Placed ι)) (action : Action)
    (reply : action.Reply) :
    own turn (history ++ [⟨(other, action), reply⟩]) =
      if other = turn then own turn history ++ [⟨action, reply⟩] else own turn history := by
  by_cases same : other = turn <;> simp [own, same]

/-- The turns so far come to performing the placed actions one at a time. -/
structure Serial (memory : Memory) (world : World ι) : Prop where
  memory_eq : world.memory = (oneByOne world.order memory).2
  accounts : ∀ turn, (world.task turn).Accounts (own turn (oneByOne world.order memory).1)

theorem serial_start (programs : ι → List Action) (memory : Memory) :
    (start programs memory).Serial memory where
  memory_eq := rfl
  accounts _ := .idle

/-- A turn of any task keeps the turns explained, since it places at most one action, at the end. -/
theorem Serial.step {memory : Memory} {world : World ι} (serial : world.Serial memory) (turn : ι) :
    (world.step turn).Serial memory := by
  have turned := (serial.accounts turn).step world.memory
  unfold World.step
  generalize (world.task turn).step world.memory = outcome at turned
  cases turned with
  | @silent next accounts =>
      constructor
      case memory_eq => simpa using serial.memory_eq
      case accounts =>
        intro other
        simp only [List.map_nil, List.append_nil]
        by_cases same : other = turn
        · subst same
          rw [Function.update_self]
          exact accounts
        · rw [Function.update_of_ne same]
          exact serial.accounts other
  | @placing next after action leaves accounts =>
      constructor
      case memory_eq =>
        simp only [List.map_singleton, oneByOne_concat, ← serial.memory_eq]
        exact leaves
      case accounts =>
        intro other
        simp only [List.map_singleton, oneByOne_concat, ← serial.memory_eq, own_concat]
        by_cases same : turn = other
        · subst same
          rw [Function.update_self, if_pos rfl]
          exact accounts
        · rw [Function.update_of_ne (Ne.symm same), if_neg same]
          exact serial.accounts other

/-- What the turns come to, by induction on the schedule. -/
theorem serial_run (programs : ι → List Action) (memory : Memory) (schedule : List ι) :
    ((start programs memory).run schedule).Serial memory :=
  run_invariant (fun _ turn serial => serial.step turn) schedule (serial_start programs memory)

/-! ## Tasks -/

/-- No turn adds to the program of a task or takes anything from it. -/
theorem program_run (programs : ι → List Action) (memory : Memory) (schedule : List ι) (turn : ι) :
    (((start programs memory).run schedule).task turn).program = programs turn := by
  apply run_invariant (motive := fun world => (world.task turn).program = programs turn)
  · intro world other before
    by_cases same : turn = other
    · subst same
      rw [task_step_self, Task.program_step]
      exact before
    · rw [task_step_of_ne world same]
      exact before
  · rfl

/-- A settled reply stays settled, in whatever order the tasks go on. -/
theorem settled_run {before : List Done} {event : Done} {world : World ι} {turn : ι}
    (settled : (world.task turn).Settled before event) (schedule : List ι) :
    ((world.run schedule).task turn).Settled before event := by
  apply run_invariant (motive := fun world => (world.task turn).Settled before event)
  · intro world other settled
    by_cases same : turn = other
    · subst same
      rw [task_step_self]
      exact settled.step world.memory
    · rw [task_step_of_ne world same]
      exact settled
  · exact settled

/-- The order only grows at its end. -/
theorem order_prefix_run (world : World ι) (schedule : List ι) :
    world.order <+: (world.run schedule).order := by
  apply run_invariant (motive := fun later => world.order <+: later.order)
  · intro later turn grows
    exact grows.trans (List.prefix_append _ _)
  · exact List.prefix_rfl

end PipelineDepot.World
