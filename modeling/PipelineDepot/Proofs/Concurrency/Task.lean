import Mathlib.Logic.Function.Basic
import PipelineDepot.Proofs.Concurrency.Stage
import PipelineDepot.Proofs.Session.Run

/-! # Tasks over one client in memory

A task works through a list of actions. In each of its turns it begins the next action, makes the
call of the current one, takes a step of it without the client, or records what it returned
(`Task.step`). Any number of tasks share one client in memory, which handles a call in one turn,
and the turns of the tasks come in any order (`World.run`).

An action takes its place in the order when its call is made; one that makes no call takes it
when it begins. From then on its reply is settled (`Task.Settled`), and it is the one that
performing the action in that place gives (`Task.Accounts`).
-/

namespace PipelineDepot

open Blob

/-- An action with what it returned. -/
abbrev Done := Session.Event Action.Reply

/-- What a task has done, what it is doing, and what it is still to do. -/
structure Task where
  todo : List Action
  current : Option ((action : Action) × Stage action.Reply)
  done : List Done

namespace Task

/-- All actions of a task, in their order. -/
def program (task : Task) : List Action :=
  task.done.map (·.step) ++ (task.current.map (·.1)).toList ++ task.todo

/-- The task has come to the end of its program. -/
structure Idle (task : Task) : Prop where
  todo : task.todo = []
  current : task.current = none

/-- Takes a turn on the memory, and says which action takes its place in the order. -/
def step (task : Task) (memory : Memory) : Task × Memory × List Action :=
  match task.current with
  | none =>
    match task.todo with
    | [] => (task, memory, [])
    | action :: rest =>
      ({ task with todo := rest, current := some ⟨action, action.stage⟩ }, memory,
        if action.stage.reply?.isSome then [action] else [])
  | some ⟨action, stage⟩ =>
    match stage.advance? with
    | some next => ({ task with current := some ⟨action, next⟩ }, memory, [])
    | none =>
      match stage with
      | .finished reply =>
        ({ task with current := none, done := task.done ++ [⟨action, reply⟩] }, memory, [])
      | .calling call resume =>
        let (answer, after) := Memory.client.answer call memory
        ({ task with current := some ⟨action, resume answer⟩ }, after, [action])
      | .reading _ _ _ | .working _ => (task, memory, [])

/-- The call of an action under way is still to be made. -/
structure Pending (action : Action) (stage : Stage action.Reply) : Prop where
  unknown : stage.reply? = none
  single : stage.Single
  performs : stage.carryOut Memory.client = action.perform Memory.client

/-- The events are those of a task: of the actions it has done, and of the current one once it
has its place. -/
inductive Accounts : List Done → Task → Prop
  | idle {todo : List Action} {done : List Done} : Accounts done ⟨todo, none, done⟩
  | owing {todo : List Action} {done : List Done} {action : Action} {stage : Stage action.Reply}
      {reply : action.Reply} (owed : stage.reply? = some reply) :
      Accounts (done ++ [⟨action, reply⟩]) ⟨todo, some ⟨action, stage⟩, done⟩
  | pending {todo : List Action} {done : List Done} {action : Action} {stage : Stage action.Reply}
      (pending : Pending action stage) : Accounts done ⟨todo, some ⟨action, stage⟩, done⟩

/-- What a turn may come to: nothing takes a place and the memory stays, or an action takes its
place and the memory is what performing it leaves. -/
inductive Advances (own : List Done) (memory : Memory) : Task × Memory × List Action → Prop
  | silent {next : Task} (accounts : Accounts own next) : Advances own memory (next, memory, [])
  | placing {next : Task} {after : Memory} {action : Action}
      (leaves : after = (action.perform Memory.client memory).2)
      (accounts : Accounts
        (own ++ [Session.event (fun action => action.perform Memory.client) action memory]) next) :
      Advances own memory (next, after, [action])

/-- An action whose reply is settled gives it in every state, and leaves the state alone. -/
theorem perform_of_reply? {action : Action} {stage : Stage action.Reply} {reply : action.Reply}
    (performs : stage.carryOut Memory.client = action.perform Memory.client)
    (owed : stage.reply? = some reply) (memory : Memory) :
    action.perform Memory.client memory = (reply, memory) := by
  rw [← performs, Stage.carryOut_of_reply? _ owed]
  rfl

/-- Beginning an action places it only if it makes no call. -/
theorem advances_of_begin {rest : List Action} {done : List Done} (action : Action)
    (memory : Memory) :
    Advances done memory (Task.step ⟨action :: rest, none, done⟩ memory) := by
  simp only [step]
  cases owed : action.stage.reply? with
  | none =>
      have pending : Pending action action.stage :=
        ⟨owed, action.single_stage, action.carryOut_stage Memory.client⟩
      exact .silent (.pending pending)
  | some reply =>
      have given := perform_of_reply? (action.carryOut_stage Memory.client) owed memory
      simp only [Option.isSome_some, ↓reduceIte]
      apply Advances.placing
      · rw [given]
      · simp only [Session.event, given]
        exact .owing owed

/-- What the client answers to the call of an action decides its reply. -/
theorem Pending.answered {action : Action} {call : Call}
    {resume : call.Answer → Stage action.Reply} (pending : Pending action (.calling call resume))
    (memory : Memory) :
    ∃ reply, (resume (Memory.client.answer call memory).1).reply? = some reply ∧
      action.perform Memory.client memory = (reply, (Memory.client.answer call memory).2) := by
  obtain ⟨reply, owed⟩ := pending.single (Memory.client.answer call memory).1
  refine ⟨reply, owed, ?_⟩
  rw [← pending.performs]
  have carried := Stage.carryOut_of_reply? Memory.client owed
  exact congrFun carried (Memory.client.answer call memory).2

/-- The call of an action gives it its place. -/
theorem advances_of_call {todo : List Action} {done : List Done} {action : Action} {call : Call}
    {resume : call.Answer → Stage action.Reply} (pending : Pending action (.calling call resume))
    (memory : Memory) :
    Advances done memory (Task.step ⟨todo, some ⟨action, .calling call resume⟩, done⟩ memory) := by
  obtain ⟨reply, owed, given⟩ := pending.answered memory
  apply Advances.placing
  · exact (congrArg Prod.snd given).symm
  · simp only [Session.event, given]
    exact .owing owed

/-- **A turn of a task places at most one action**, and then does to the memory what performing
the action does. -/
theorem Accounts.step {own : List Done} {task : Task} (accounts : Accounts own task)
    (memory : Memory) : Advances own memory (task.step memory) := by
  cases accounts with
  | @idle todo done =>
      cases todo with
      | nil => exact .silent .idle
      | cons action rest => exact advances_of_begin action memory
  | @owing todo done action stage reply owed =>
      rcases stage.cases_of_advance? with ⟨call, resume, rfl⟩ | ⟨other, rfl⟩ | ⟨next, advanced⟩
      · cases owed
      · obtain rfl := Option.some.inj owed
        exact .silent .idle
      · have continues := Stage.continues_of_advance? advanced
        simp only [Task.step, advanced]
        exact .silent (.owing (continues.reply?_eq.trans owed))
  | @pending todo done action stage pending =>
      rcases stage.cases_of_advance? with ⟨call, resume, rfl⟩ | ⟨other, rfl⟩ | ⟨next, advanced⟩
      · exact advances_of_call pending memory
      · cases pending.unknown
      · have continues := Stage.continues_of_advance? advanced
        have onward : Pending action next := {
          unknown := continues.reply?_eq.trans pending.unknown
          single := continues.single pending.single
          performs := (continues.carryOut_eq Memory.client).trans pending.performs }
        simp only [Task.step, advanced]
        exact .silent (.pending onward)

/-- A turn moves an action along the program, which stays the same. -/
theorem program_step (task : Task) (memory : Memory) :
    (task.step memory).1.program = task.program := by
  obtain ⟨todo, current, done⟩ := task
  cases current with
  | none =>
      cases todo with
      | nil => rfl
      | cons action rest => simp [Task.step, program]
  | some current =>
      obtain ⟨action, stage⟩ := current
      rcases stage.cases_of_advance? with ⟨call, resume, rfl⟩ | ⟨other, rfl⟩ | ⟨next, advanced⟩
      · rfl
      · simp [Task.step, Stage.advance?, program]
      · simp only [Task.step, advanced]
        rfl

/-! ## Settled replies -/

/-- The reply of an action is settled: it is still owed, or it has been recorded. -/
inductive Settled (before : List Done) (event : Done) : Task → Prop
  | owed {todo : List Action} {stage : Stage event.step.Reply}
      (owed : stage.reply? = some event.reply) :
      Settled before event ⟨todo, some ⟨event.step, stage⟩, before⟩
  | recorded {task : Task} (recorded : before ++ [event] <+: task.done) :
      Settled before event task

/-- What a task has done stays done. -/
theorem done_prefix_step (task : Task) (memory : Memory) :
    task.done <+: (task.step memory).1.done := by
  obtain ⟨todo, current, done⟩ := task
  cases current with
  | none =>
      cases todo with
      | nil => exact List.prefix_rfl
      | cons action rest => exact List.prefix_rfl
  | some current =>
      obtain ⟨action, stage⟩ := current
      rcases stage.cases_of_advance? with ⟨call, resume, rfl⟩ | ⟨other, rfl⟩ | ⟨next, advanced⟩
      · exact List.prefix_rfl
      · exact List.prefix_append _ _
      · simp only [Task.step, advanced]
        exact List.prefix_rfl

/-- A call settles the reply of its action. -/
theorem Pending.settled {action : Action} {call : Call}
    {resume : call.Answer → Stage action.Reply} (pending : Pending action (.calling call resume))
    (todo : List Action) (done : List Done) (memory : Memory) :
    Settled done ⟨action, (action.perform Memory.client memory).1⟩
      (Task.step ⟨todo, some ⟨action, .calling call resume⟩, done⟩ memory).1 := by
  obtain ⟨reply, owed, given⟩ := pending.answered memory
  rw [given]
  exact @Settled.owed done ⟨action, reply⟩ todo _ owed

/-- No turn changes a settled reply, whatever the memory has become. -/
theorem Settled.step {before : List Done} {event : Done} {task : Task}
    (settled : Settled before event task) (memory : Memory) :
    Settled before event (task.step memory).1 := by
  cases settled with
  | recorded recorded => exact .recorded (recorded.trans (task.done_prefix_step memory))
  | @owed todo stage owed =>
      rcases stage.cases_of_advance? with ⟨call, resume, rfl⟩ | ⟨other, rfl⟩ | ⟨next, advanced⟩
      · cases owed
      · obtain rfl := Option.some.inj owed
        exact .recorded List.prefix_rfl
      · have continues := Stage.continues_of_advance? advanced
        simp only [Task.step, advanced]
        exact .owed (continues.reply?_eq.trans owed)

namespace Accounts

variable {own : List Done} {task : Task} (accounts : Accounts own task)

include accounts

theorem extends_done : task.done <+: own := by
  cases accounts with
  | idle | pending pending => exact List.prefix_rfl
  | owing owed => exact List.prefix_append _ _

theorem done_of_idle (idle : task.Idle) : task.done = own := by
  cases accounts with
  | idle => rfl
  | owing owed | pending pending => cases idle.current

theorem mem_program {event : Done} (member : event ∈ own) : event.step ∈ task.program := by
  cases accounts with
  | idle => simp [program, List.mem_map_of_mem member]
  | pending pending => simp [program, List.mem_map_of_mem member]
  | owing owed =>
      rcases List.mem_append.mp member with earlier | last
      · simp [program, List.mem_map_of_mem earlier]
      · simp [program, List.mem_singleton.mp last]

/-- The reply of an action that has its place is settled. -/
theorem settled {before : List Done} {event : Done} (placed : before ++ [event] <+: own) :
    Settled before event task := by
  cases accounts with
  | idle => exact .recorded placed
  | pending pending => exact .recorded placed
  | owing owed =>
      rcases List.prefix_concat_iff.mp placed with whole | earlier
      · obtain ⟨rfl, same⟩ := List.append_inj' whole rfl
        obtain rfl := List.singleton_inj.mp same
        exact .owed owed
      · exact .recorded earlier

end Accounts

end Task

/-- Tasks over one client in memory, with the order in which their actions have taken place. -/
structure World (ι : Type) where
  memory : Memory
  task : ι → Task
  order : List (ι × Action)

namespace World

variable {ι : Type} [DecidableEq ι]

/-- The world before any turn: each task has its program still to do. -/
def start (programs : ι → List Action) (memory : Memory) : World ι where
  memory := memory
  task turn := ⟨programs turn, none, []⟩
  order := []

/-- One task takes a turn. -/
def step (world : World ι) (turn : ι) : World ι :=
  let (task, memory, placed) := (world.task turn).step world.memory
  ⟨memory, Function.update world.task turn task, world.order ++ placed.map (turn, ·)⟩

theorem task_step_self (world : World ι) (turn : ι) :
    (world.step turn).task turn = ((world.task turn).step world.memory).1 :=
  Function.update_self turn _ world.task

theorem task_step_of_ne (world : World ι) {turn other : ι} (different : other ≠ turn) :
    (world.step turn).task other = world.task other :=
  Function.update_of_ne different _ world.task

/-- The tasks take their turns as they come. -/
def run (world : World ι) (schedule : List ι) : World ι := schedule.foldl step world

/-- What holds at the start and outlives every turn holds after any turns. -/
theorem run_invariant {motive : World ι → Prop}
    (kept : ∀ world turn, motive world → motive (world.step turn)) (schedule : List ι)
    {world : World ι} (holds : motive world) : motive (world.run schedule) := by
  induction schedule generalizing world with
  | nil => exact holds
  | cons turn rest ih => exact ih (kept world turn holds)

/-! ## Progress -/

/-- Some number of turns of its own takes a task through the rest of its program. -/
def Finishes (turn : ι) (world : World ι) : Prop :=
  ∃ count, ((world.run (List.replicate count turn)).task turn).Idle

theorem Finishes.of_step {turn : ι} {world : World ι} {task : Task}
    (before : world.task turn = task)
    (onward : ∀ next : World ι, next.task turn = (task.step world.memory).1 → next.Finishes turn) :
    world.Finishes turn := by
  have taken : (world.step turn).task turn = (task.step world.memory).1 := by
    rw [task_step_self, before]
  obtain ⟨count, idle⟩ := onward (world.step turn) taken
  exact ⟨count + 1, idle⟩

/-- An action under way comes to its end, by induction on the stages it still has. -/
theorem finishes_of_stage {turn : ι} {todo : List Action} {done : List Done} {action : Action}
    (stage : Stage action.Reply)
    (recorded : ∀ (reply : action.Reply) (world : World ι),
      world.task turn = ⟨todo, none, done ++ [⟨action, reply⟩]⟩ → world.Finishes turn)
    (world : World ι) (under : world.task turn = ⟨todo, some ⟨action, stage⟩, done⟩) :
    world.Finishes turn := by
  -- Each turn takes one step of the stage; a reader is emptied by an induction of its own.
  induction stage generalizing world with
  | finished reply => exact .of_step under (recorded reply)
  | working next ih => exact .of_step under ih
  | calling call resume ih => exact .of_step under (ih (Memory.client.answer call world.memory).1)
  | reading reader content resume ih =>
      obtain ⟨pieces, failure⟩ := reader
      induction pieces generalizing content world with
      | cons piece rest again => exact .of_step under (again (content ++ piece))
      | nil =>
          cases failure with
          | some cause => exact .of_step under (ih (.error cause))
          | none => exact .of_step under (ih (.ok content))

/-- A task never waits for another one to move. -/
theorem finishes (world : World ι) (turn : ι) : world.Finishes turn := by
  have finishes_of_none (todo : List Action) : ∀ (done : List Done) (world : World ι),
      world.task turn = ⟨todo, none, done⟩ → world.Finishes turn := by
    induction todo with
    | nil =>
        intro done world resting
        exact ⟨0, congrArg Task.todo resting, congrArg Task.current resting⟩
    | cons action rest ih =>
        intro done world resting
        exact .of_step resting (finishes_of_stage action.stage fun reply => ih _)
  cases now : world.task turn with
  | mk todo current done =>
      cases current with
      | none => exact finishes_of_none todo done world now
      | some current =>
          obtain ⟨action, stage⟩ := current
          exact finishes_of_stage stage (fun reply => finishes_of_none todo _) world now

end World

end PipelineDepot
