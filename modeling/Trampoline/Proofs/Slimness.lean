import Trampoline.Proofs.Holdings

/-!
Stacks that have never held two frames at a time.

A stack is slim if nothing is in its overflow.  Code makes up no stacks: what it holds of them, as the
rest of a plan that stepping has left, comes from the host.  So a plan is slim if the stacks in it
are, whatever its code comes to, and a machine is slim if all its stacks are, those of loops that wait
and of boundaries included.
-/

namespace Trampoline

mutual

inductive Plan.Slim {Memory : Type} : Plan Memory → Prop
  | pure {value} : Plan.Slim (.pure value)
  | raise {failure} : Plan.Slim (.raise failure)
  | suspendWith {thunk onPanic} (thunks : ∀ input, Code.Slim (thunk input))
      (names : ∀ panic, Code.Slim (onPanic panic)) : Plan.Slim (.suspendWith thunk onPanic)
  | delayWith {thunk onPanic} (thunks : ∀ input, Code.Slim (thunk input))
      (names : ∀ panic, Code.Slim (onPanic panic)) : Plan.Slim (.delayWith thunk onPanic)
  | async {registration} (registers : Registration.Slim registration) :
      Plan.Slim (.async registration)
  | bind {source next} (first : Plan.Slim source) (nexts : ∀ value, Code.Slim (next value)) :
      Plan.Slim (.bind source next)
  | map {source change} (first : Plan.Slim source) (changes : ∀ value, Code.Slim (change value)) :
      Plan.Slim (.map source change)
  | handle {source handler} (first : Plan.Slim source)
      (handlers : ∀ failure, Code.Slim (handler failure)) : Plan.Slim (.handle source handler)
  | redeem {source onFailure onValue} (first : Plan.Slim source)
      (handlers : ∀ failure, Code.Slim (onFailure failure))
      (nexts : ∀ value, Code.Slim (onValue value)) : Plan.Slim (.redeem source onFailure onValue)
  | continueOn {source context} (first : Plan.Slim source) (contexts : Context.Slim context) :
      Plan.Slim (.continueOn source context)
  | switch {source modify restore} (first : Plan.Slim source)
      (modifies : ∀ token, Code.Slim (modify token))
      (restores : ∀ back, restore = some back → ∀ result old token,
        Code.Slim (back result old token)) :
      Plan.Slim (.switch source modify restore)
  | held {kept} : Plan.Slim (.held kept)

inductive Registration.Slim {Memory : Type} : Registration Memory → Prop
  | calling {register} (registers : ∀ token completer, Code.Slim (register token completer)) :
      Registration.Slim (.calling register)
  | hopping {source context} (first : Plan.Slim source) (contexts : Context.Slim context) :
      Registration.Slim (.hopping source context)
  | finishing {head pending} (first : Plan.Slim head) (overflow : pending.overflow = #[])
      (top : ∀ frame, pending.top = some frame → Frame.Slim frame) :
      Registration.Slim (.finishing head pending)

inductive Frame.Slim {Memory : Type} : Frame Memory → Prop
  | bind {next} (nexts : ∀ value, Code.Slim (next value)) : Frame.Slim (.bind next)
  | map {change} (changes : ∀ value, Code.Slim (change value)) : Frame.Slim (.map change)
  | handle {handler} (handlers : ∀ failure, Code.Slim (handler failure)) :
      Frame.Slim (.handle handler)
  | redeem {onFailure onValue} (handlers : ∀ failure, Code.Slim (onFailure failure))
      (nexts : ∀ value, Code.Slim (onValue value)) : Frame.Slim (.redeem onFailure onValue)
  | restore {old back} (restores : ∀ result old token, Code.Slim (back result old token)) :
      Frame.Slim (.restore old back)

inductive Context.Slim {Memory : Type} : Context Memory → Prop
  | immediate : Context.Slim .immediate
  | spawner {spawner label} : Context.Slim (.spawner spawner label)
  | custom {name schedule} (schedules : ∀ number, Code.Slim (schedule number)) :
      Context.Slim (.custom name schedule)

inductive Answer.Slim {Memory : Type} : {form : Form} → Answer Memory form → Prop
  | value {value} : Answer.Slim (.value value)
  | result {result} : Answer.Slim (.result result)
  | plan {plan} (first : Plan.Slim plan) : Answer.Slim (.plan plan)
  | failure {failure} : Answer.Slim (.failure failure)
  | token {token} : Answer.Slim (.token token)
  | unit : Answer.Slim .unit

inductive Code.Slim {Memory : Type} : {form : Form} → Code Memory form → Prop
  | done {form} {answer : Answer Memory form} (answers : Answer.Slim answer) :
      Code.Slim (.done answer)
  | ask {form request} {next : request.Reply → Code Memory form}
      (nexts : ∀ reply, Code.Slim (next reply)) : Code.Slim (.ask request next)
  | panic {form payload silent} : Code.Slim (.panic payload silent : Code Memory form)
  | guard {form body} {next : Except Panic Value → Code Memory form}
      (bodies : ∀ input, Code.Slim (body input)) (nexts : ∀ caught, Code.Slim (next caught)) :
      Code.Slim (.guard body next)
  | onThread {form name body} {next : Option Value → Code Memory form}
      (bodies : ∀ input, Code.Slim (body input)) (nexts : ∀ value, Code.Slim (next value)) :
      Code.Slim (.onThread name body next)
  | run {form plan token receive} {next : Unit → Code Memory form} (first : Plan.Slim plan)
      (receives : ∀ outcome, Code.Slim (receive outcome)) (nexts : ∀ input, Code.Slim (next input)) :
      Code.Slim (.run plan token receive next)
  | runSync {form plan token} {next : Option (Outcome Value) → Code Memory form}
      (first : Plan.Slim plan) (nexts : ∀ outcome, Code.Slim (next outcome)) :
      Code.Slim (.runSync plan token next)
  | step {form plan} {next : Nat → Code Memory form} (first : Plan.Slim plan)
      (nexts : ∀ kept, Code.Slim (next kept)) : Code.Slim (.step plan next)
  | complete {form completer result} {next : Unit → Code Memory form}
      (nexts : ∀ input, Code.Slim (next input)) : Code.Slim (.complete completer result next)
  | execute {form context task} {next : Unit → Code Memory form} (contexts : Context.Slim context)
      (tasks : ∀ input, Code.Slim (task input)) (nexts : ∀ input, Code.Slim (next input)) :
      Code.Slim (.execute context task next)
  | runTask {form task} {next : Unit → Code Memory form} (nexts : ∀ input, Code.Slim (next input)) :
      Code.Slim (.runTask task next)

end

variable {Memory : Type} {last form rest : Form}

theorem Code.Slim.unit : (Code.unit : Code Memory .unit).Slim :=
  .done .unit

theorem Plan.Slim.ofResult (result : Result) : (Plan.ofResult result : Plan Memory).Slim := by
  cases result with
  | ok => exact .pure
  | error => exact .raise

theorem Plan.Slim.never : (Plan.never : Plan Memory).Slim :=
  .async (.calling fun _ _ => .unit)

/-! ### Stacks -/

/-- A stack that has not overflowed, with a frame whose code is slim. -/
structure Stack.Slim (pending : Stack (Frame Memory)) : Prop where
  overflow : pending.overflow = #[]
  top : ∀ frame, pending.top = some frame → frame.Slim

def Stack.isCrowded {Frame : Type} (pending : Stack Frame) : Bool :=
  2 ≤ pending.size

namespace Stack

variable {pending : Stack (Frame Memory)}

theorem slim_empty : ({} : Stack (Frame Memory)).Slim :=
  ⟨rfl, nofun⟩

theorem Slim.isCrowded_eq (slim : pending.Slim) : pending.isCrowded = false := by
  obtain ⟨top, overflow⟩ := pending
  obtain rfl : overflow = #[] := slim.overflow
  cases top <;> rfl

theorem Slim.push (slim : pending.Slim) (free : pending.isOccupied = false) {frame : Frame Memory}
    (more : frame.Slim) : (pending.push frame).Slim := by
  obtain ⟨_ | top, overflow⟩ := pending
  · refine ⟨slim.overflow, fun other same => ?_⟩
    cases same
    exact more
  · cases free

theorem isCrowded_push {Frame : Type} {pending : Stack Frame} (occupied : pending.isOccupied = true)
    (frame : Frame) : (pending.push frame).isCrowded = true := by
  obtain ⟨_ | top, overflow⟩ := pending
  · cases occupied
  · simp only [Stack.push, isCrowded, size, Array.size_push, Option.toList_some,
      List.length_singleton, decide_eq_true_eq]
    omega

theorem Slim.popWhere (slim : pending.Slim) (accepts : Frame Memory → Bool) :
    (pending.popWhere accepts).2.Slim ∧
      ∀ frame, (pending.popWhere accepts).1 = some frame → frame.Slim := by
  obtain ⟨top, overflow⟩ := pending
  obtain rfl : overflow = #[] := slim.overflow
  have nothing : (⟨none, #[]⟩ : Stack (Frame Memory)).popWhere accepts = (none, {}) :=
    popWhere_of_none rfl
  cases top with
  | none =>
      rw [nothing]
      exact ⟨slim_empty, nofun⟩
  | some frame =>
      rw [popWhere_of_some rfl]
      split
      · refine ⟨⟨rfl, nofun⟩, fun other same => ?_⟩
        cases same
        exact slim.top frame rfl
      · rw [nothing]
        exact ⟨slim_empty, nofun⟩

end Stack

/-! ### Machines -/

namespace Caller

def Slim : Caller Memory form rest → Prop
  | .code next => ∀ input, (next input).Slim
  | .waiting _ next => ∀ outcome, (next outcome).Slim
  | .stepping next => ∀ kept, (next kept).Slim
  | .joining _ next => ∀ value, (next value).Slim
  | .guarding next => ∀ caught, (next caught).Slim
  | .suspended loop onPanic | .delayed loop onPanic =>
      loop.pending.Slim ∧ ∀ panic, (onPanic panic).Slim
  | .namingSuspended loop | .namingDelayed loop | .continuing loop | .mapping loop
  | .restoring loop _ => loop.pending.Slim
  | .switching loop source restore =>
      loop.pending.Slim ∧ source.Slim ∧
        ∀ back, restore = some back → ∀ result old token, (back result old token).Slim
  | .spawning _ | .registering _ _ _ | .detaching _ _ _ | .telling => True

end Caller

def Callers.Slim : {form : Form} → Callers Memory last form → Prop
  | _, .bottom => True
  | _, .push caller callers => caller.Slim ∧ callers.Slim

def Focus.Slim : Focus Memory last → Prop
  | .code body callers => body.Slim ∧ callers.Slim
  | .iterate loop plan callers => loop.pending.Slim ∧ plan.Slim ∧ callers.Slim
  | .feed loop _ callers => loop.pending.Slim ∧ callers.Slim
  | .finish _ _ callers | .complete _ _ callers | .unwind _ callers => callers.Slim
  | .halted _ => True

namespace Focus

def isCrowded : Focus Memory last → Bool
  | .iterate loop _ _ | .feed loop _ _ => loop.pending.isCrowded
  | _ => false

theorem Slim.isCrowded_eq {focus : Focus Memory last} (slim : focus.Slim) :
    focus.isCrowded = false := by
  cases focus with
  | iterate loop plan callers => exact slim.1.isCrowded_eq
  | feed loop result callers => exact slim.1.isCrowded_eq
  | _ => rfl

end Focus

def Receiver.Slim : Receiver Memory → Prop
  | .code receive => ∀ outcome, (receive outcome).Slim
  | .forward _ | .nobody => True

def Phase.Slim : Phase Memory → Prop
  | .idle => True
  | .registering _ pending | .waiting pending | .parked pending _ => pending.Slim

structure Run.Slim (run : Run Memory) : Prop where
  receiver : run.receiver.Slim
  boundary : ∀ boundary, run.boundary = some boundary → boundary.phase.Slim

def Task.Slim : Task Memory → Prop
  | .code body => ∀ input, (body input).Slim
  | .run source _ _ => source.Slim

structure Host.Slim (host : Host Memory) : Prop where
  runs : ∀ (run : Nat) (entry : Run Memory), host.runs[run]? = some entry → entry.Slim
  tasks : ∀ (number : Nat) (task : Task Memory),
    host.tasks[number]? = some (some task) → task.Slim
  kept : ∀ (kept : Nat) (plan : Plan Memory), host.kept[kept]? = some plan → plan.Slim

structure Machine.Slim (machine : Machine Memory last) : Prop where
  focus : machine.focus.Slim
  host : machine.host.Slim

namespace Host.Slim

variable {host after : Host Memory}

theorem holds (slim : host.Slim) : host.Holds Run.Slim Task.Slim Plan.Slim :=
  ⟨slim.runs, slim.tasks, slim.kept⟩

theorem of_holds (holds : host.Holds Run.Slim Task.Slim Plan.Slim) : host.Slim :=
  ⟨holds.runs, holds.tasks, holds.kept⟩

theorem of_same (slim : host.Slim) (runs : after.runs = host.runs) (tasks : after.tasks = host.tasks)
    (kept : after.kept = host.kept) : after.Slim :=
  .of_holds (slim.holds.of_same runs tasks kept)

theorem held (slim : host.Slim) (kept : Nat) : (host.held kept).Slim :=
  slim.holds.held .never kept

theorem boundary? (slim : host.Slim) {run : Nat} {boundary : Boundary Memory}
    (found : host.boundary? run = some boundary) : boundary.phase.Slim := by
  obtain ⟨entry, listed, same⟩ := Option.bind_eq_some_iff.1 found
  exact (slim.runs run entry listed).boundary boundary same

theorem keep (slim : host.Slim) {plan : Plan Memory} (first : plan.Slim) :
    (host.keep plan).2.Slim :=
  .of_holds (slim.holds.keep first)

theorem addRun (slim : host.Slim) {receiver : Receiver Memory} (receives : receiver.Slim) :
    (host.addRun receiver).2.Slim :=
  .of_holds (slim.holds.addRun ⟨receives, nofun⟩)

theorem addTask (slim : host.Slim) {task : Task Memory} (more : task.Slim) :
    (host.addTask task).2.Slim :=
  .of_holds (slim.holds.addTask more)

theorem takeTask (slim : host.Slim) (number : Nat) : (host.takeTask number).2.Slim :=
  .of_holds (slim.holds.takeTask number)

theorem modify (slim : host.Slim) (run : Nat) (change : Run Memory → Run Memory)
    (changes : ∀ entry, entry.Slim → (change entry).Slim) :
    Host.Slim { host with runs := host.runs.modify run change } :=
  .of_holds (slim.holds.modify run change changes)

theorem setBoundary (slim : host.Slim) (run : Nat) (boundary : Boundary Memory)
    (phase : boundary.phase.Slim) : (host.setBoundary run boundary).Slim := by
  refine slim.modify run _ fun entry before => ⟨before.receiver, fun other same => ?_⟩
  cases same
  exact phase

/-- A boundary that has been crossed keeps no stack. -/
theorem cross (slim : host.Slim) (run : Nat) (boundary : Boundary Memory) (event : Event) :
    ((host.setBoundary run { boundary with phase := .idle }).emit event).Slim :=
  (slim.setBoundary run { boundary with phase := .idle } trivial).of_same rfl rfl rfl

theorem changeToken (slim : host.Slim) (run : Nat) (token : Token) :
    (host.changeToken run token).Slim := by
  refine slim.modify run _ fun entry before => ⟨before.receiver, fun other same => ?_⟩
  obtain ⟨boundary, found, rfl⟩ := Option.map_eq_some_iff.1 same
  exact before.boundary boundary found

end Host.Slim

end Trampoline
