import Trampoline.Proofs.Stepping

/-!
Plans that keep to themselves, and how many loops are open on a thread.

A modest plan hops onto the immediate context only, its registrations complete no boundary but their
own, on the thread on which they are called, and its other code starts, steps and completes nothing.
Its depth says how deep its hops nest in the direction of their sources; what is sequenced after a
hop may hop again at the same depth.

A loop of a run is open from its first iteration until it has told an outcome or left its run at a
boundary.  So it is open while it waits for code that it has called, for a registration, or for a
receiver, unless that code is on another thread.
-/

namespace Trampoline

variable {Memory : Type} {last : Form}

mutual

/-- A plan with hops onto the immediate context only, so many levels deep at most, whose code starts,
steps and completes nothing, except that a registration may complete its own boundary. -/
inductive Plan.Modest {Memory : Type} : Nat → Plan Memory → Prop
  | pure {depth value} : Plan.Modest depth (.pure value)
  | raise {depth failure} : Plan.Modest depth (.raise failure)
  | suspendWith {depth thunk onPanic} (thunks : ∀ input, Code.Modest depth none (thunk input))
      (names : ∀ panic, Code.Modest depth none (onPanic panic)) :
      Plan.Modest depth (.suspendWith thunk onPanic)
  | delayWith {depth thunk onPanic} (thunks : ∀ input, Code.Modest depth none (thunk input))
      (names : ∀ panic, Code.Modest depth none (onPanic panic)) :
      Plan.Modest depth (.delayWith thunk onPanic)
  | calling {depth register}
      (registers : ∀ token completer,
        Code.Modest depth (some completer) (register token completer)) :
      Plan.Modest depth (.async (.calling register))
  | hopping {depth source} (inside : Plan.Modest depth source) :
      Plan.Modest (depth + 1) (.async (.hopping source .immediate))
  | bind {depth source next} (first : Plan.Modest depth source)
      (nexts : ∀ value, Code.Modest depth none (next value)) : Plan.Modest depth (.bind source next)
  | map {depth source change} (first : Plan.Modest depth source)
      (changes : ∀ value, Code.Modest depth none (change value)) :
      Plan.Modest depth (.map source change)
  | handle {depth source handler} (first : Plan.Modest depth source)
      (handlers : ∀ failure, Code.Modest depth none (handler failure)) :
      Plan.Modest depth (.handle source handler)
  | redeem {depth source onFailure onValue} (first : Plan.Modest depth source)
      (handlers : ∀ failure, Code.Modest depth none (onFailure failure))
      (nexts : ∀ value, Code.Modest depth none (onValue value)) :
      Plan.Modest depth (.redeem source onFailure onValue)
  | continueOn {depth source} (inside : Plan.Modest depth source) :
      Plan.Modest (depth + 1) (.continueOn source .immediate)
  | switch {depth source modify restore} (first : Plan.Modest depth source)
      (modifies : ∀ token, Code.Modest depth none (modify token))
      (restores : ∀ back ∈ restore, ∀ result old token,
        Code.Modest depth none (back result old token)) :
      Plan.Modest depth (.switch source modify restore)

inductive Answer.Modest {Memory : Type} : Nat → {form : Form} → Answer Memory form → Prop
  | plan {depth plan} (modest : Plan.Modest depth plan) : Answer.Modest depth (.plan plan)
  | value {depth value} : Answer.Modest depth (.value value)
  | result {depth result} : Answer.Modest depth (.result result)
  | failure {depth failure} : Answer.Modest depth (.failure failure)
  | token {depth token} : Answer.Modest depth (.token token)
  | unit {depth} : Answer.Modest depth .unit

/-- Code that starts, steps and completes nothing, or only one boundary, on the thread on which it
runs, and answers with modest plans only. -/
inductive Code.Modest {Memory : Type} :
    Nat → Option Completer → {form : Form} → Code Memory form → Prop
  | done {depth own form} {answer : Answer Memory form} (modest : Answer.Modest depth answer) :
      Code.Modest depth own (.done answer)
  | ask {depth own form request} {next : request.Reply → Code Memory form}
      (nexts : ∀ reply, Code.Modest depth own (next reply)) :
      Code.Modest depth own (.ask request next)
  | panic {depth own form payload silent} :
      Code.Modest depth own (.panic payload silent : Code Memory form)
  | guard {depth own form body} {next : Except Panic Value → Code Memory form}
      (bodies : ∀ input, Code.Modest depth own (body input))
      (nexts : ∀ caught, Code.Modest depth own (next caught)) :
      Code.Modest depth own (.guard body next)
  | onThread {depth own form name body} {next : Option Value → Code Memory form}
      (bodies : ∀ input, Code.Modest depth none (body input))
      (nexts : ∀ value, Code.Modest depth own (next value)) :
      Code.Modest depth own (.onThread name body next)
  | complete {depth form completer result} {next : Unit → Code Memory form}
      (nexts : ∀ input, Code.Modest depth (some completer) (next input)) :
      Code.Modest depth (some completer) (.complete completer result next)
  | immediately {depth own form task} {next : Unit → Code Memory form}
      (tasks : ∀ input, Code.Modest depth own (task input))
      (nexts : ∀ input, Code.Modest depth own (next input)) :
      Code.Modest depth own (.execute .immediate task next)
  | spawning {depth own form spawner label task} {next : Unit → Code Memory form}
      (tasks : ∀ input, Code.Modest depth none (task input))
      (nexts : ∀ input, Code.Modest depth own (next input)) :
      Code.Modest depth own (.execute (.spawner spawner label) task next)
  /-- A task that is only queued does nothing on this thread. -/
  | queueing {depth own form name schedule task} {next : Unit → Code Memory form}
      (schedules : ∀ number, Code.Modest depth own (schedule number))
      (nexts : ∀ input, Code.Modest depth own (next input)) :
      Code.Modest depth own (.execute (.custom name schedule) task next)

end

def Frame.Modest (depth : Nat) : Frame Memory → Prop
  | .bind next => ∀ value, (next value).Modest depth none
  | .map change => ∀ value, (change value).Modest depth none
  | .handle handler => ∀ failure, (handler failure).Modest depth none
  | .redeem onFailure onValue =>
      (∀ failure, (onFailure failure).Modest depth none) ∧
        ∀ value, (onValue value).Modest depth none
  | .restore _ back => ∀ result old token, (back result old token).Modest depth none

def Stack.Modest (depth : Nat) (pending : Stack (Frame Memory)) : Prop :=
  ∀ frame ∈ pending.toList, frame.Modest depth

theorem Code.Modest.unit {depth : Nat} {own : Option Completer} :
    (Code.unit : Code Memory .unit).Modest depth own :=
  .done .unit

theorem Plan.Modest.ofResult {depth : Nat} (result : Result) :
    (Plan.ofResult result : Plan Memory).Modest depth := by
  cases result with
  | ok => exact .pure
  | error => exact .raise

def Loop.activations {form : Form} (loop : Loop Memory form) : Nat :=
  match loop.purpose with
  | .run _ => 1
  | .step => 0

namespace Caller

variable {form rest : Form}

/-- How many loops of runs a caller keeps open. -/
def activations : Caller Memory form rest → Nat
  | .suspended loop _ | .delayed loop _ | .namingSuspended loop | .namingDelayed loop
  | .continuing loop | .mapping loop | .switching loop _ _ | .restoring loop _ => loop.activations
  | .registering _ _ _ | .detaching _ _ _ | .telling => 1
  | _ => 0

def isRemote : Caller Memory form rest → Bool
  | .joining _ _ | .spawning _ => true
  | _ => false

end Caller

/-- How many loops of runs are open on the current thread among callers. -/
def Callers.activations : {form : Form} → Callers Memory last form → Nat
  | _, .bottom => 0
  | _, .push caller callers =>
      if caller.isRemote then 0 else caller.activations + callers.activations

def Focus.activations : Focus Memory last → Nat
  | .code _ callers | .complete _ _ callers | .unwind _ callers => callers.activations
  | .iterate loop _ callers | .feed loop _ callers => loop.activations + callers.activations
  | .finish _ _ callers => 1 + callers.activations
  | .halted _ => 0

end Trampoline
