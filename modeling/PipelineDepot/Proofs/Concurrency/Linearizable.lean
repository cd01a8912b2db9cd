import PipelineDepot.Proofs.Concurrency.Apart
import PipelineDepot.Proofs.RoundTrip

/-! # One client in memory, shared

Tasks that share a client in memory might as well take turns action by action. Whatever their
programs are and however their steps interleave, the replies, the objects and the recorded calls
are those of performing the actions one at a time, in the order in which their calls were made
(`World.linearizable_run`).
-/

namespace PipelineDepot.World

open Blob Blob.Memory

variable {ι : Type} [DecidableEq ι]

/-- The turns so far come to performing actions one at a time, in the order of their calls. Each
task follows its program, and has recorded the replies of this order up to where it is. -/
structure Ordered (programs : ι → List Action) (memory : Memory) (world : World ι) : Prop where
  memory_eq : world.memory = (oneByOne world.order memory).2
  recorded : world.memory.calls = memory.calls ++ world.order.filterMap (·.2.call?)
  program : ∀ turn, (world.task turn).program = programs turn
  replied : ∀ turn, (world.task turn).done <+: own turn (oneByOne world.order memory).1
  complete : ∀ turn, (world.task turn).Idle →
    (world.task turn).done = own turn (oneByOne world.order memory).1
  finishes : ∀ turn, world.Finishes turn
  extended : ∀ later, world.order <+: (world.run later).order

/-- A reply is settled by the call of its action: it is what performing the action at that moment
gives, and nothing done afterwards changes it. In particular a get that found an object returns
it, even if the object is overwritten or deleted before its stream is read. And an object stays
until it is overwritten or deleted. -/
structure Undisturbed (memory : Memory) (world : World ι) : Prop where
  settled : ∀ turn before event, before ++ [event] <+: own turn (oneByOne world.order memory).1 →
    ∀ later, ((world.run later).task turn).Settled before event
  called : ∀ turn todo done action call resume,
    world.task turn = ⟨todo, some ⟨action, .calling call resume⟩, done⟩ →
    ∀ later, (((world.step turn).run later).task turn).Settled done
      ⟨action, (action.perform client world.memory).1⟩
  held : ∀ turn todo done (store : Store) path resume content,
    world.task turn = ⟨todo, some ⟨.through store (.get path),
      .calling (.get store.bucket path) resume⟩, done⟩ →
    .get ∉ world.memory.failing → world.memory.find? store.bucket path = some content →
    ∀ later, (((world.step turn).run later).task turn).Settled done
      ⟨.through store (.get path),
        .ok (if store.singlePart then ChunkSignature.strip content else content)⟩
  kept : ∀ bucket key content,
    Session.Latest (Writes bucket key content) (Touches bucket key)
      (oneByOne world.order memory).1 →
    world.memory.find? bucket key = some content

/-- Each task is answered as if it were alone, and in the end the objects are the last writes of
the tasks. -/
structure Separate (world : World ι) : Prop where
  answered : ∀ turn before event after, (world.task turn).done = before ++ event :: after →
    Answered (before.map acted) (acted event)
  readBack : ∀ turn (store : Store) path reply before after content,
    (world.task turn).done = before ++ ⟨.through store (.get path), reply⟩ :: after →
    LastWrite (before.map acted) store.bucket path content →
    reply = .ok (if store.singlePart then ChunkSignature.strip content else content)
  find?_iff : (∀ turn, (world.task turn).Idle) → ∀ bucket key content,
    world.memory.find? bucket key = some content ↔
      ∃ turn, LastWrite ((world.task turn).done.map acted) bucket key content
  size_eq : (∀ turn, (world.task turn).Idle) → world.memory.size =
    Set.ncard {address : String × String | ∃ content turn,
      LastWrite ((world.task turn).done.map acted) address.1 address.2 content}

/-- The tasks share the client as if each action were one step. -/
structure Linearizable (programs : ι → List Action) (memory : Memory) (world : World ι) :
    Prop where
  ordered : world.Ordered programs memory
  undisturbed : world.Undisturbed memory
  separate : memory = .empty → Apart programs → world.Separate

variable {programs : ι → List Action} {memory : Memory} {world : World ι}

/-- Whatever the schedule, the turns come to performing the placed actions one at a time. -/
theorem ordered_run (programs : ι → List Action) (memory : Memory) (schedule : List ι) :
    ((start programs memory).run schedule).Ordered programs memory := by
  have serial := serial_run programs memory schedule
  constructor
  case memory_eq => exact serial.memory_eq
  case recorded => rw [serial.memory_eq, calls_oneByOne]
  case program => exact program_run programs memory schedule
  case replied => exact fun turn => (serial.accounts turn).extends_done
  case complete => exact fun turn => (serial.accounts turn).done_of_idle
  case finishes => exact finishes _
  case extended => exact order_prefix_run _

/-- The action of a task that is about to call has no place in the order yet. -/
theorem Serial.pending {turn : ι} (serial : world.Serial memory) {todo : List Action}
    {done : List Done} {action : Action} {call : Call} {resume : call.Answer → Stage action.Reply}
    (under : world.task turn = ⟨todo, some ⟨action, .calling call resume⟩, done⟩) :
    Task.Pending action (.calling call resume) := by
  have accounts := serial.accounts turn
  rw [under] at accounts
  generalize own turn (oneByOne world.order memory).1 = events at accounts
  cases accounts with
  | owing owed => cases owed
  | pending pending => exact pending

theorem Serial.undisturbed (serial : world.Serial memory) : world.Undisturbed memory := by
  have called (turn : ι) (todo : List Action) (done : List Done) (action : Action) (call : Call)
      (resume : call.Answer → Stage action.Reply)
      (under : world.task turn = ⟨todo, some ⟨action, .calling call resume⟩, done⟩)
      (later : List ι) : (((world.step turn).run later).task turn).Settled done
        ⟨action, (action.perform client world.memory).1⟩ := by
    apply settled_run
    rw [task_step_self, under]
    exact (serial.pending under).settled todo done world.memory
  constructor
  case settled =>
    intro turn before event placed later
    exact settled_run ((serial.accounts turn).settled placed) later
  case called => exact called
  case held =>
    intro turn todo done store path resume content under working held later
    have reply : ((Action.through store (.get path)).perform client world.memory).1 =
        .ok (if store.singlePart then ChunkSignature.strip content else content) :=
      (returns_of_find? working held).fetched
    rw [← reply]
    exact called turn todo done _ _ resume under later
  case kept =>
    intro bucket key content latest
    rw [serial.memory_eq]
    exact find?_of_latest world.order memory latest

theorem Serial.separate (serial : world.Serial .empty) (apart : Apart programs)
    (program : ∀ turn, (world.task turn).program = programs turn) : world.Separate := by
  have follows : Follows programs (oneByOne world.order .empty).1 := by
    intro event member
    have listed : (⟨event.step.2, event.reply⟩ : Done) ∈
        own event.step.1 (oneByOne world.order .empty).1 :=
      List.mem_map_of_mem (List.mem_filter.mpr ⟨member, decide_eq_true rfl⟩)
    exact program event.step.1 ▸ (serial.accounts event.step.1).mem_program listed
  have explains := explains_oneByOne world.order
  have answered (turn : ι) (before : List Done) (event : Done) (after : List Done)
      (split : (world.task turn).done = before ++ event :: after) :
      Answered (before.map acted) (acted event) := by
    obtain ⟨rest, whole⟩ := (serial.accounts turn).extends_done
    rw [split, List.append_assoc, List.cons_append] at whole
    exact answered_own apart follows explains whole.symm
  have owned (idle : ∀ turn, (world.task turn).Idle) (bucket key : String) (content : Bytes) :
      world.memory.find? bucket key = some content ↔
        ∃ turn, LastWrite ((world.task turn).done.map acted) bucket key content := by
    rw [serial.memory_eq, find?_iff_own apart follows explains]
    simp only [(serial.accounts _).done_of_idle (idle _)]
  constructor
  case answered => exact answered
  case readBack =>
    intro turn store path reply before after content split latest
    have acts (event : Done) : ∃ action, (acted event).step = .act action := ⟨_, rfl⟩
    have clear := not_setToFail_map acts before .get
    exact (answered turn before _ after split).get_of_lastWrite clear latest
  case find?_iff => exact owned
  case size_eq =>
    intro idle
    have distinct : world.memory.Distinct := by
      rw [serial.memory_eq]
      exact distinct_oneByOne world.order
    rw [distinct.size_eq]
    simp only [owned idle]

/-- **A client in memory is linearizable.** Whatever the programs of the tasks and the order of
their turns, the replies, the objects and the recorded calls are those of performing the actions
one at a time, in the order of their calls. -/
theorem linearizable_run (programs : ι → List Action) (memory : Memory) (schedule : List ι) :
    ((start programs memory).run schedule).Linearizable programs memory := by
  have serial := serial_run programs memory schedule
  constructor
  case ordered => exact ordered_run programs memory schedule
  case undisturbed => exact serial.undisturbed
  case separate =>
    intro empty apart
    subst empty
    exact serial.separate apart (program_run programs .empty schedule)

/-- A get that is reading its stream when the object is deleted returns the object, through a
single-part store without its chunk header. -/
example :
    let store : Store := ⟨"b", "", true⟩
    let programs : Bool → List Action
      | false =>
        [.through store (.add ChunkSignature.signedContent "a"), .through store (.delete "a")]
      | true => [.through store (.get "a")]
    let world := (start programs .empty).run [false, false, false, true, true, false, false]
    world.memory.objects = [] ∧
      ((world.run [true, true, true, true]).task true).done =
        [⟨.through store (.get "a"), .ok [255]⟩] := by
  cbv

end PipelineDepot.World
