import Trampoline.Machine.Next

/-!
What happens in a move of a machine, run by run.

A loop looks at its token, calls code, hears how that code ended, and reaches boundaries; a boundary
is attempted, crossed by the completion it accepts, and returned from by its registration; a run is
started and tells its outcome.  `Machine.happenings` reads all of it off the state before a
move, except that a run was started, which shows in the state after it.
-/

namespace Trampoline

variable {Memory : Type} {last : Form}

/-- Code that a loop calls, with what it is given. -/
inductive Call (Memory : Type) where
  | suspended (thunk : Unit → Code Memory .plan)
  | delayed (thunk : Unit → Code Memory .value)
  /-- Which failure a panic of a thunk is. -/
  | naming (onPanic : Panic → Code Memory .failure) (panic : Panic)
  | continuing (next : Value → Code Memory .plan) (value : Value)
  | handling (handler : Failure → Code Memory .plan) (failure : Failure)
  | mapping (change : Value → Code Memory .value) (value : Value)
  | switching (modify : Token → Code Memory .token) (token : Token)
  | restoring (restore : Result → Token → Token → Code Memory .token) (result : Result)
      (old current : Token)

namespace Call

def form : Call Memory → Form
  | .suspended _ | .continuing _ _ | .handling _ _ => .plan
  | .delayed _ | .mapping _ _ => .value
  | .naming _ _ => .failure
  | .switching _ _ | .restoring _ _ _ _ => .token

def code : (call : Call Memory) → Code Memory call.form
  | .suspended thunk => thunk ()
  | .delayed thunk => thunk ()
  | .naming onPanic panic => onPanic panic
  | .continuing next value => next value
  | .handling handler failure => handler failure
  | .mapping change value => change value
  | .switching modify token => modify token
  | .restoring restore result old current => restore result old current

end Call

/-- Who completes a boundary: code that was given the right to, a run that tells its outcome, or a
registration that panicked. -/
inductive Maker where
  | code
  | run
  | registration
  deriving DecidableEq, Repr

/-- Something that happens to a run. -/
inductive Happening (Memory : Type) where
  | started (plan : Plan Memory) (pending : Stack (Frame Memory)) (token : Token)
      (receiver : Receiver Memory)
  /-- An iteration starts under a token. -/
  | looked (token : Token) (canceled : Bool)
  /-- Code is called while a token is active. -/
  | called (call : Call Memory) (token : Token)
  | answered {form : Form} (answer : Answer Memory form)
  | panicked (panic : Panic)
  /-- The plan that is held under a number was looked up. -/
  | recalled (kept : Nat) (plan : Plan Memory)
  /-- A boundary is armed and its registration is called. -/
  | reached (epoch : Nat) (registration : Registration Memory) (token : Token)
      (pending : Stack (Frame Memory))
  /-- Somebody tries to complete the boundary of an epoch. -/
  | attempted (epoch : Nat) (outcome : Outcome Value) (maker : Maker)
  /-- The attempt is accepted. -/
  | crossed (epoch : Nat) (outcome : Outcome Value)
  /-- The registration of an epoch has returned. -/
  | returned (epoch : Nat)
  | told (outcome : Outcome Value)

/-- Whether a loop makes it happen without a boundary of its run. -/
def Happening.isInner : Happening Memory → Bool
  | .looked _ _ | .called _ _ | .answered _ | .panicked _ | .recalled _ _ => true
  | _ => false

structure Record (Memory : Type) where
  run : Nat
  thread : Nat
  happening : Happening Memory

def recorded (thread : Nat) (happenings : List (Nat × Happening Memory)) : List (Record Memory) :=
  happenings.map fun (run, happening) => { run, thread, happening }

/-- What happens to the run that a loop is for; a loop that only steps is for none. -/
def Loop.note {form : Form} (loop : Loop Memory form)
    (happenings : Nat → List (Happening Memory)) : List (Nat × Happening Memory) :=
  match loop.purpose with
  | .run run => (happenings run).map fun happening => (run, happening)
  | .step => []

/-- The call that a frame makes for a result, if it takes it. -/
def Frame.call? (frame : Frame Memory) (result : Result) (token : Token) : Option (Call Memory) :=
  match frame, result with
  | .bind next, .ok value | .redeem _ next, .ok value => some (.continuing next value)
  | .map change, .ok value => some (.mapping change value)
  | .handle handler, .error failure | .redeem handler _, .error failure =>
      some (.handling handler failure)
  | .restore old back, result => some (.restoring back result old token)
  | .handle _, .ok _ | .bind _, .error _ | .map _, .error _ => none

def Host.epoch (host : Host Memory) (run : Nat) : Nat :=
  ((host.boundary? run).map Boundary.epoch).getD 0

@[simp]
theorem Host.epoch_arm (host : Host Memory) (run : Nat) (token other : Token) (thread : Nat)
    (pending : Stack (Frame Memory)) :
    (((host.boundary? run).getD { token }).arm other thread pending).epoch = host.epoch run + 1 := by
  rw [epoch]
  cases host.boundary? run <;> rfl

def Plan.happenings (host : Host Memory) (run : Nat) (pending : Stack (Frame Memory))
    (token : Token) : Plan Memory → List (Happening Memory)
  | .suspendWith thunk _ => [.called (.suspended thunk) token]
  | .delayWith thunk _ => [.called (.delayed thunk) token]
  | .switch _ modify _ => [.called (.switching modify token) token]
  | .async registration => [.reached (host.epoch run + 1) registration token pending]
  | .held kept => [.recalled kept (host.held kept)]
  | _ => []

namespace Caller

variable {form rest : Form}

def note (caller : Caller Memory form rest) (happenings : Nat → List (Happening Memory)) :
    List (Nat × Happening Memory) :=
  match caller with
  | .suspended loop _ | .delayed loop _ | .namingSuspended loop | .namingDelayed loop
  | .continuing loop | .mapping loop | .switching loop _ _ | .restoring loop _ =>
      loop.note happenings
  | _ => []

def answerHappenings (caller : Caller Memory form rest) (answer : Answer Memory form) :
    List (Nat × Happening Memory) :=
  match caller with
  | .registering run epoch _ | .detaching run epoch _ => [(run, .returned epoch)]
  | caller => caller.note fun _ => [.answered answer]

/-- A thunk that panics has the panic named by another call at once. -/
def panicHappenings (caller : Caller Memory form rest) (panic : Panic) :
    List (Nat × Happening Memory) :=
  match caller with
  | .suspended loop onPanic | .delayed loop onPanic =>
      loop.note fun _ => [.panicked panic, .called (.naming onPanic panic) loop.token]
  | caller => caller.note fun _ => [.panicked panic]

def maker : Caller Memory form rest → Maker
  | .telling => .run
  | .detaching _ _ _ => .registration
  | _ => .code

end Caller

def Callers.maker {form : Form} : Callers Memory last form → Maker
  | .bottom => .code
  | .push caller _ => caller.maker

def Host.accepts (host : Host Memory) (completer : Completer) : Bool :=
  (host.boundary? completer.run).any fun boundary =>
    decide (boundary.epoch = completer.epoch) && boundary.isArmed

/-- What happens in the next move, as far as the state before it shows. -/
def Focus.happenings (host : Host Memory) : Focus Memory last → List (Nat × Happening Memory)
  | .iterate loop plan _ =>
      loop.note fun run =>
        if host.tokens.isCanceled loop.token then [.looked loop.token true]
        else .looked loop.token false :: plan.happenings host run loop.pending loop.token
  | .feed loop result _ =>
      loop.note fun _ =>
        (((Loop.frameFor loop.pending result).1.bind (·.call? result loop.token)).toList).map
          (.called · loop.token)
  | .code (.done answer) (.push caller _) => caller.answerHappenings answer
  | .unwind payload (.push caller _) => caller.panicHappenings (host.capture payload).1
  | .complete completer outcome callers =>
      (completer.run, .attempted completer.epoch outcome callers.maker) ::
        if host.accepts completer then [(completer.run, .crossed completer.epoch outcome)] else []
  | .finish run outcome _ =>
      if host.runs[run]?.any (·.outcome.isNone) then [(run, .told outcome)] else []
  | _ => []

namespace Machine

/-- The run that a move has started, given how many there were. -/
def startHappenings (runs : Nat) (after : Machine Memory last) : List (Nat × Happening Memory) :=
  match after.host.runs[runs]?, after.focus with
  | some entry, .iterate loop plan _ =>
      [(runs, .started plan loop.pending loop.token entry.receiver)]
  | _, _ => []

def happenings (machine : Machine Memory last) : List (Nat × Happening Memory) :=
  machine.focus.happenings machine.host ++ startHappenings machine.host.runs.size machine.next

def records (machine : Machine Memory last) : List (Record Memory) :=
  recorded machine.host.thread.id machine.happenings

end Machine

end Trampoline
