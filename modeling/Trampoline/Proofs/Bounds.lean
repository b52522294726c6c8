import Trampoline.Proofs.Holdings
import Trampoline.Proofs.Move.Upshot

/-!
Programs that keep to bounds.

Bounds say which failures a program may come up with and what its memory may be.  Code that is given
values, failures and memory within the bounds gives nothing else back if it respects them, and the
plans it builds do the same.  A machine respects bounds if all does that it still has to do: the code
that waits, the frames that are pending, the results on their way, and what the host holds.
-/

namespace Trampoline

/-- The failures that may come up, and the memory that may be left. -/
structure Bounds (Memory : Type) where
  failure : Failure → Prop
  memory : Memory → Prop
  /-- A program cannot help it that a panic is caught as a failure. -/
  panicked : ∀ panic, failure (.panicked panic)

variable {Memory : Type}

inductive Value.Respects (bounds : Bounds Memory) : Value → Prop
  | datum {datum} : Value.Respects bounds (.datum datum)
  | succeeded {value} (inner : Value.Respects bounds value) :
      Value.Respects bounds (.attempt (.ok value))
  | failed {failure} (bounded : bounds.failure failure) :
      Value.Respects bounds (.attempt (.error failure))

def Result.Respects (bounds : Bounds Memory) : Result → Prop
  | .ok value => value.Respects bounds
  | .error failure => bounds.failure failure

def Outcome.Respects (bounds : Bounds Memory) : Outcome Value → Prop
  | .completed value => value.Respects bounds
  | .failed failure => bounds.failure failure
  | .canceled => True

namespace Request

def Respects (bounds : Bounds Memory) : Request Memory → Prop
  | .modify change => ∀ memory, bounds.memory memory → bounds.memory (change memory)
  | _ => True

def Gives (bounds : Bounds Memory) : (request : Request Memory) → request.Reply → Prop
  | .recall, memory => bounds.memory memory
  | _, _ => True

end Request

mutual

inductive Plan.Respects {Memory : Type} (bounds : Bounds Memory) : Plan Memory → Prop
  | pure {value} (values : value.Respects bounds) : Plan.Respects bounds (.pure value)
  | raise {failure} (bounded : bounds.failure failure) : Plan.Respects bounds (.raise failure)
  | suspendWith {thunk onPanic} (thunks : Code.Respects bounds (thunk ()))
      (names : ∀ panic, Code.Respects bounds (onPanic panic)) :
      Plan.Respects bounds (.suspendWith thunk onPanic)
  | delayWith {thunk onPanic} (thunks : Code.Respects bounds (thunk ()))
      (names : ∀ panic, Code.Respects bounds (onPanic panic)) :
      Plan.Respects bounds (.delayWith thunk onPanic)
  | async {registration} (registers : Registration.Respects bounds registration) :
      Plan.Respects bounds (.async registration)
  | bind {source next} (first : Plan.Respects bounds source)
      (nexts : ∀ value, value.Respects bounds → Code.Respects bounds (next value)) :
      Plan.Respects bounds (.bind source next)
  | map {source change} (first : Plan.Respects bounds source)
      (changes : ∀ value, value.Respects bounds → Code.Respects bounds (change value)) :
      Plan.Respects bounds (.map source change)
  | handle {source handler} (first : Plan.Respects bounds source)
      (handlers : ∀ failure, bounds.failure failure → Code.Respects bounds (handler failure)) :
      Plan.Respects bounds (.handle source handler)
  | redeem {source onFailure onValue} (first : Plan.Respects bounds source)
      (handlers : ∀ failure, bounds.failure failure → Code.Respects bounds (onFailure failure))
      (nexts : ∀ value, value.Respects bounds → Code.Respects bounds (onValue value)) :
      Plan.Respects bounds (.redeem source onFailure onValue)
  | continueOn {source context} (first : Plan.Respects bounds source)
      (contexts : Context.Respects bounds context) : Plan.Respects bounds (.continueOn source context)
  | switch {source modify restore} (first : Plan.Respects bounds source)
      (modifies : ∀ token, Code.Respects bounds (modify token))
      (restores : ∀ back ∈ restore, ∀ result old token, Result.Respects bounds result →
        Code.Respects bounds (back result old token)) :
      Plan.Respects bounds (.switch source modify restore)
  | held {kept} : Plan.Respects bounds (.held kept)

inductive Registration.Respects {Memory : Type} (bounds : Bounds Memory) :
    Registration Memory → Prop
  | calling {register}
      (registers : ∀ token completer, Code.Respects bounds (register token completer)) :
      Registration.Respects bounds (.calling register)
  | hopping {source context} (first : Plan.Respects bounds source)
      (contexts : Context.Respects bounds context) :
      Registration.Respects bounds (.hopping source context)
  | finishing {head pending} (first : Plan.Respects bounds head)
      (frames : ∀ frame ∈ pending.toList, Frame.Respects bounds frame) :
      Registration.Respects bounds (.finishing head pending)

inductive Frame.Respects {Memory : Type} (bounds : Bounds Memory) : Frame Memory → Prop
  | bind {next} (nexts : ∀ value, value.Respects bounds → Code.Respects bounds (next value)) :
      Frame.Respects bounds (.bind next)
  | map {change} (changes : ∀ value, value.Respects bounds → Code.Respects bounds (change value)) :
      Frame.Respects bounds (.map change)
  | handle {handler}
      (handlers : ∀ failure, bounds.failure failure → Code.Respects bounds (handler failure)) :
      Frame.Respects bounds (.handle handler)
  | redeem {onFailure onValue}
      (handlers : ∀ failure, bounds.failure failure → Code.Respects bounds (onFailure failure))
      (nexts : ∀ value, value.Respects bounds → Code.Respects bounds (onValue value)) :
      Frame.Respects bounds (.redeem onFailure onValue)
  | restore {old back}
      (restores : ∀ result old token, Result.Respects bounds result →
        Code.Respects bounds (back result old token)) :
      Frame.Respects bounds (.restore old back)

inductive Context.Respects {Memory : Type} (bounds : Bounds Memory) : Context Memory → Prop
  | immediate : Context.Respects bounds .immediate
  | spawner {spawner label} : Context.Respects bounds (.spawner spawner label)
  | custom {name schedule} (schedules : ∀ number, Code.Respects bounds (schedule number)) :
      Context.Respects bounds (.custom name schedule)

inductive Answer.Respects {Memory : Type} (bounds : Bounds Memory) :
    {form : Form} → Answer Memory form → Prop
  | value {value} (values : value.Respects bounds) : Answer.Respects bounds (.value value)
  | result {result} (results : Result.Respects bounds result) :
      Answer.Respects bounds (.result result)
  | plan {plan} (first : Plan.Respects bounds plan) : Answer.Respects bounds (.plan plan)
  | failure {failure} (bounded : bounds.failure failure) :
      Answer.Respects bounds (.failure failure)
  | token {token} : Answer.Respects bounds (.token token)
  | unit : Answer.Respects bounds .unit

inductive Code.Respects {Memory : Type} (bounds : Bounds Memory) :
    {form : Form} → Code Memory form → Prop
  | done {form} {answer : Answer Memory form} (answers : Answer.Respects bounds answer) :
      Code.Respects bounds (.done answer)
  | ask {form request} {next : request.Reply → Code Memory form} (asks : request.Respects bounds)
      (nexts : ∀ reply, request.Gives bounds reply → Code.Respects bounds (next reply)) :
      Code.Respects bounds (.ask request next)
  | panic {form payload silent} : Code.Respects bounds (.panic payload silent : Code Memory form)
  | guard {form body} {next : Except Panic Value → Code Memory form}
      (bodies : Code.Respects bounds (body ()))
      (nexts : ∀ caught, (∀ value, caught = .ok value → value.Respects bounds) →
        Code.Respects bounds (next caught)) :
      Code.Respects bounds (.guard body next)
  | onThread {form name body} {next : Option Value → Code Memory form}
      (bodies : Code.Respects bounds (body ()))
      (nexts : ∀ value?, (∀ value ∈ value?, value.Respects bounds) →
        Code.Respects bounds (next value?)) :
      Code.Respects bounds (.onThread name body next)
  | run {form plan token receive} {next : Unit → Code Memory form}
      (first : Plan.Respects bounds plan)
      (receives : ∀ outcome, outcome.Respects bounds → Code.Respects bounds (receive outcome))
      (nexts : Code.Respects bounds (next ())) : Code.Respects bounds (.run plan token receive next)
  | runSync {form plan token} {next : Option (Outcome Value) → Code Memory form}
      (first : Plan.Respects bounds plan)
      (nexts : ∀ outcome?, (∀ outcome ∈ outcome?, outcome.Respects bounds) →
        Code.Respects bounds (next outcome?)) :
      Code.Respects bounds (.runSync plan token next)
  | step {form plan} {next : Nat → Code Memory form} (first : Plan.Respects bounds plan)
      (nexts : ∀ kept, Code.Respects bounds (next kept)) : Code.Respects bounds (.step plan next)
  | complete {form completer result} {next : Unit → Code Memory form}
      (results : Result.Respects bounds result) (nexts : Code.Respects bounds (next ())) :
      Code.Respects bounds (.complete completer result next)
  | execute {form context task} {next : Unit → Code Memory form}
      (contexts : Context.Respects bounds context) (tasks : Code.Respects bounds (task ()))
      (nexts : Code.Respects bounds (next ())) : Code.Respects bounds (.execute context task next)
  | runTask {form task} {next : Unit → Code Memory form}
      (nexts : Code.Respects bounds (next ())) : Code.Respects bounds (.runTask task next)

end

variable {last form rest : Form} {bounds : Bounds Memory}

theorem Code.Respects.unit : (Code.unit : Code Memory .unit).Respects bounds :=
  .done .unit

theorem Plan.Respects.ofResult {result : Result} (results : Result.Respects bounds result) :
    (Plan.ofResult result : Plan Memory).Respects bounds := by
  cases result with
  | ok value => exact .pure results
  | error failure => exact .raise results

theorem Plan.Respects.never : (Plan.never : Plan Memory).Respects bounds :=
  .async (.calling fun _ _ => .unit)

theorem Outcome.Respects.ofResult {result : Result} (results : Result.Respects bounds result) :
    (Outcome.ofResult result).Respects bounds := by
  cases result with
  | ok value => exact results
  | error failure => exact results

/-! ### Stacks -/

def Stack.Respects (bounds : Bounds Memory) (pending : Stack (Frame Memory)) : Prop :=
  ∀ frame ∈ pending.toList, frame.Respects bounds

namespace Stack

variable {pending : Stack (Frame Memory)}

theorem respects_empty : ({} : Stack (Frame Memory)).Respects bounds :=
  fun _ member => nomatch member

theorem Respects.push (respects : pending.Respects bounds) {frame : Frame Memory}
    (more : frame.Respects bounds) : (pending.push frame).Respects bounds := by
  rw [Stack.Respects, toList_push]
  exact List.forall_mem_cons.2 ⟨more, respects⟩

theorem Respects.popWhere (respects : pending.Respects bounds) (accepts : Frame Memory → Bool)
    {frame : Frame Memory} {below : Stack (Frame Memory)}
    (found : pending.popWhere accepts = (some frame, below)) :
    accepts frame = true ∧ frame.Respects bounds ∧ below.Respects bounds := by
  obtain ⟨skipped, _, popped⟩ := pending.popWhere_spec accepts
  rw [found] at popped
  obtain ⟨accepted, listed⟩ := popped
  rw [Stack.Respects, listed, List.forall_mem_append, List.forall_mem_cons] at respects
  exact ⟨accepted, respects.2⟩

end Stack

/-! ### Machines -/

def Caller.Respects (bounds : Bounds Memory) : Caller Memory form rest → Prop
  | .code next => (next ()).Respects bounds
  | .waiting _ next =>
      ∀ outcome?, (∀ outcome ∈ outcome?, outcome.Respects bounds) → (next outcome?).Respects bounds
  | .stepping next => ∀ kept, (next kept).Respects bounds
  | .joining _ next =>
      ∀ value?, (∀ value ∈ value?, value.Respects bounds) → (next value?).Respects bounds
  | .guarding next =>
      ∀ caught, (∀ value, caught = .ok value → value.Respects bounds) →
        (next caught).Respects bounds
  | .suspended loop onPanic | .delayed loop onPanic =>
      loop.pending.Respects bounds ∧ ∀ panic, (onPanic panic).Respects bounds
  | .namingSuspended loop | .namingDelayed loop | .continuing loop | .mapping loop =>
      loop.pending.Respects bounds
  | .restoring loop result => loop.pending.Respects bounds ∧ Result.Respects bounds result
  | .switching loop source restore =>
      loop.pending.Respects bounds ∧ source.Respects bounds ∧
        ∀ back ∈ restore, ∀ result old token, Result.Respects bounds result →
          (back result old token).Respects bounds
  | .spawning _ | .registering _ _ _ | .detaching _ _ _ | .telling => True

def Callers.Respects (bounds : Bounds Memory) : {form : Form} → Callers Memory last form → Prop
  | _, .bottom => True
  | _, .push caller callers => caller.Respects bounds ∧ callers.Respects bounds

def Focus.Respects (bounds : Bounds Memory) : Focus Memory last → Prop
  | .code body callers => body.Respects bounds ∧ callers.Respects bounds
  | .iterate loop plan callers =>
      loop.pending.Respects bounds ∧ plan.Respects bounds ∧ callers.Respects bounds
  | .feed loop result callers =>
      loop.pending.Respects bounds ∧ Result.Respects bounds result ∧ callers.Respects bounds
  | .finish _ outcome callers | .complete _ outcome callers =>
      outcome.Respects bounds ∧ callers.Respects bounds
  | .unwind _ callers => callers.Respects bounds
  | .halted _ => True

def Receiver.Respects (bounds : Bounds Memory) : Receiver Memory → Prop
  | .code receive => ∀ outcome, outcome.Respects bounds → (receive outcome).Respects bounds
  | .forward _ | .nobody => True

def Phase.Respects (bounds : Bounds Memory) : Phase Memory → Prop
  | .idle => True
  | .registering _ pending | .waiting pending => pending.Respects bounds
  | .parked pending outcome => pending.Respects bounds ∧ outcome.Respects bounds

structure Run.Respects (bounds : Bounds Memory) (run : Run Memory) : Prop where
  receiver : run.receiver.Respects bounds
  outcome : ∀ outcome ∈ run.outcome, outcome.Respects bounds
  boundary : ∀ boundary ∈ run.boundary, boundary.phase.Respects bounds

def Task.Respects (bounds : Bounds Memory) : Task Memory → Prop
  | .code body => (body ()).Respects bounds
  | .run source _ _ => source.Respects bounds

structure Host.Respects (bounds : Bounds Memory) (host : Host Memory) : Prop where
  memory : bounds.memory host.memory
  holds : host.Holds (Run.Respects bounds) (Task.Respects bounds) (Plan.Respects bounds)

structure Machine.Respects (bounds : Bounds Memory) (machine : Machine Memory last) : Prop where
  focus : machine.focus.Respects bounds
  host : machine.host.Respects bounds

namespace Host.Respects

variable {host after : Host Memory}

theorem of_same (respects : host.Respects bounds) (memory : after.memory = host.memory)
    (runs : after.runs = host.runs) (tasks : after.tasks = host.tasks)
    (kept : after.kept = host.kept) : after.Respects bounds :=
  ⟨memory ▸ respects.memory, respects.holds.of_same runs tasks kept⟩

theorem held (respects : host.Respects bounds) (kept : Nat) : (host.held kept).Respects bounds :=
  respects.holds.held .never kept

theorem boundary? (respects : host.Respects bounds) {run : Nat} {boundary : Boundary Memory}
    (found : host.boundary? run = some boundary) : boundary.phase.Respects bounds := by
  obtain ⟨entry, listed, same⟩ := Option.bind_eq_some_iff.1 found
  exact (respects.holds.runs run entry listed).boundary boundary same

theorem outcome? (respects : host.Respects bounds) {run : Nat} {outcome : Outcome Value}
    (found : host.outcome? run = some outcome) : outcome.Respects bounds := by
  obtain ⟨entry, listed, same⟩ := Option.bind_eq_some_iff.1 found
  exact (respects.holds.runs run entry listed).outcome outcome same

theorem keep (respects : host.Respects bounds) {plan : Plan Memory} (first : plan.Respects bounds) :
    (host.keep plan).2.Respects bounds :=
  ⟨respects.memory, respects.holds.keep first⟩

theorem addRun (respects : host.Respects bounds) {receiver : Receiver Memory}
    (receives : receiver.Respects bounds) : (host.addRun receiver).2.Respects bounds :=
  ⟨respects.memory, respects.holds.addRun ⟨receives, nofun, nofun⟩⟩

theorem addTask (respects : host.Respects bounds) {task : Task Memory}
    (more : task.Respects bounds) : (host.addTask task).2.Respects bounds :=
  ⟨respects.memory, respects.holds.addTask more⟩

theorem takeTask (respects : host.Respects bounds) (number : Nat) :
    (host.takeTask number).2.Respects bounds :=
  ⟨respects.memory, respects.holds.takeTask number⟩

theorem tell (respects : host.Respects bounds) (run : Nat) {outcome : Outcome Value}
    (within : outcome.Respects bounds) :
    (host.tell run outcome).Respects bounds := by
  refine ⟨respects.memory, respects.holds.modify run _ fun entry before => ?_⟩
  refine ⟨before.receiver, fun other same => ?_, before.boundary⟩
  cases same
  exact within

theorem setBoundary (respects : host.Respects bounds) (run : Nat) (boundary : Boundary Memory)
    (phase : boundary.phase.Respects bounds) : (host.setBoundary run boundary).Respects bounds := by
  refine ⟨respects.memory, respects.holds.modify run _ fun entry before => ?_⟩
  refine ⟨before.receiver, before.outcome, fun other same => ?_⟩
  cases same
  exact phase

/-- A boundary that has been crossed keeps no stack and no outcome. -/
theorem cross (respects : host.Respects bounds) (run : Nat) (boundary : Boundary Memory)
    (event : Event) :
    ((host.setBoundary run { boundary with phase := .idle }).emit event).Respects bounds :=
  (respects.setBoundary run { boundary with phase := .idle } trivial).of_same rfl rfl rfl rfl

theorem changeToken (respects : host.Respects bounds) (run : Nat) (token : Token) :
    (host.changeToken run token).Respects bounds := by
  refine ⟨respects.memory, respects.holds.modify run _ fun entry before => ?_⟩
  refine ⟨before.receiver, before.outcome, fun other same => ?_⟩
  obtain ⟨boundary, found, rfl⟩ := Option.map_eq_some_iff.1 same
  exact before.boundary boundary found

end Host.Respects

end Trampoline
