import Trampoline.Machine.Next
import Trampoline.Proofs.Move.Upshot

/-!
Moves and panics.

A panic is raised by code, unwinds through who does not stop it, and is captured by the first guard
that it meets, unless the thread ends before.  Nothing else captures a panic or lets one unwind.
-/

namespace Trampoline

variable {Memory : Type} {last : Form}

def Caller.isThread {form rest : Form} : Caller Memory form rest → Bool
  | .joining _ _ | .spawning _ => true
  | _ => false

def Caller.isCatch {form rest : Form} : Caller Memory form rest → Bool
  | .guarding _ => true
  | _ => false

/-- A panic that a guard has captured, and whether code has asked for that guard. -/
structure Capture where
  payload : Payload
  panic : Panic
  isCatch : Bool
  deriving DecidableEq, Repr

def Callers.isGuarded {form : Form} : Callers Memory last form → Bool
  | .bottom => false
  | .push caller callers => caller.isGuard || !caller.isThread && callers.isGuarded

def Code.isPanic {form : Form} : Code Memory form → Bool
  | .panic _ _ => true
  | _ => false

theorem Code.eq_panic {form : Form} {code : Code Memory form} (panics : code.isPanic = true) :
    ∃ payload silent, code = .panic payload silent := by
  cases code with
  | panic payload silent => exact ⟨payload, silent, rfl⟩
  | _ => cases panics

def Focus.isUnwinding : Focus Memory last → Bool
  | .unwind _ _ => true
  | _ => false

def Focus.inFlight : Focus Memory last → List Payload
  | .unwind payload callers => if callers.isGuarded then [payload] else []
  | _ => []

def Focus.raises : Focus Memory last → List Payload
  | .code (.panic payload _) callers => if callers.isGuarded then [payload] else []
  | _ => []

structure Machine.Untroubled (host : Host Memory) (after : Machine Memory last) : Prop where
  captured : after.host.capturedPanics = host.capturedPanics
  steady : after.focus.isUnwinding = false

namespace Machine

variable {form rest : Form} {host between : Host Memory}

theorem Untroubled.later {after : Machine Memory last} (untroubled : Untroubled between after)
    (same : between.capturedPanics = host.capturedPanics) : Untroubled host after :=
  ⟨untroubled.captured.trans same, untroubled.steady⟩

theorem untroubled_perform (task : Task Memory) (callers : Callers Memory last .unit)
    (host : Host Memory) : Untroubled host (perform task callers host) := by
  cases task <;> exact ⟨rfl, rfl⟩

theorem untroubled_spawn (name : Option String) (caller : Caller Memory form rest)
    (body : Callers Memory last form → Host Memory → Machine Memory last)
    (callers : Callers Memory last rest) (host : Host Memory)
    (inner : ∀ callers host, Untroubled host (body callers host)) :
    Untroubled host (spawn name caller body callers host) := by
  unfold spawn
  split
  · exact ⟨rfl, rfl⟩
  · exact (inner _ _).later rfl

theorem untroubled_execute (context : Context Memory) (task : Task Memory)
    (callers : Callers Memory last .unit) (host : Host Memory) :
    Untroubled host (execute context task callers host) := by
  cases context with
  | immediate => exact untroubled_perform task callers host
  | spawner spawner label =>
      exact (untroubled_spawn _ _ _ _ _ (untroubled_perform task)).later rfl
  | custom name schedule => exact ⟨rfl, rfl⟩

end Machine

theorem Registration.untroubled_call (registration : Registration Memory) (token : Token)
    (completer : Completer) (callers : Callers Memory last .unit) (host : Host Memory) :
    Machine.Untroubled host (registration.call token completer callers host) := by
  cases registration with
  | calling register => exact ⟨rfl, rfl⟩
  | hopping source context => exact (Machine.untroubled_execute context _ _ _).later rfl
  | finishing head pending => exact ⟨rfl, rfl⟩

theorem Host.capturedPanics_readSettings (host : Host Memory) :
    host.readSettings.2.capturedPanics = host.capturedPanics := by
  unfold readSettings
  split <;> rfl

theorem Host.capturedPanics_reply (host : Host Memory) (request : Request Memory) :
    (host.reply request).2.capturedPanics = host.capturedPanics := by
  cases request <;> simp only [reply, readSettings, install] <;> (try split) <;> rfl

theorem Host.capturedPanics_report (host : Host Memory) (payload : Payload) :
    (host.report payload).capturedPanics = host.capturedPanics := by
  unfold report
  split <;> rfl

namespace Loop

open Machine (Untroubled)

variable {form : Form} {callers : Callers Memory last form} {host : Host Memory}

theorem untroubled_stop {callers : Callers Memory last .plan} (pending : Stack (Frame Memory))
    (head : Plan Memory) : Untroubled host (stop pending head callers host) := by
  unfold stop
  split <;> exact ⟨rfl, rfl⟩

theorem untroubled_descend (loop : Loop Memory form) (frame : Frame Memory) (source : Plan Memory) :
    Untroubled host (loop.descend frame source callers host) := by
  obtain ⟨purpose, pending, token⟩ := loop
  simp only [descend, push]
  split
  · exact ⟨host.capturedPanics_readSettings, rfl⟩
  · exact ⟨rfl, rfl⟩

theorem untroubled_iterate (loop : Loop Memory form) (plan : Plan Memory) :
    Untroubled host (loop.iterate plan callers host) := by
  obtain ⟨purpose, pending, token⟩ := loop
  cases purpose with
  | run run =>
      simp only [iterate]
      split
      · exact ⟨rfl, rfl⟩
      · cases plan with
        | async registration => exact (registration.untroubled_call _ _ _ _).later rfl
        | bind | map | handle | redeem => exact untroubled_descend ⟨.run run, pending, token⟩ _ _
        | _ => exact ⟨rfl, rfl⟩
  | step =>
      cases plan with
      | async | switch => exact untroubled_stop _ _
      | bind | map | handle | redeem => exact untroubled_descend ⟨.step, pending, token⟩ _ _
      | _ => exact ⟨rfl, rfl⟩

theorem untroubled_feed (loop : Loop Memory form) (result : Result) :
    Untroubled host (loop.feed result callers host) := by
  obtain ⟨purpose, pending, token⟩ := loop
  simp only [feed]
  split
  · cases purpose <;> exact ⟨rfl, rfl⟩
  · rename_i frame below popped
    cases frame <;> cases result <;> exact ⟨rfl, rfl⟩

theorem capturedPanics_changeToken (loop : Loop Memory form) (token : Token) :
    (loop.changeToken token host).2.capturedPanics = host.capturedPanics := by
  obtain ⟨purpose, pending, old⟩ := loop
  cases purpose <;> rfl

theorem untroubled_goUnder (loop : Loop Memory form) (token : Token) (source : Plan Memory)
    (restore : Option (Result → Token → Token → Code Memory .token)) :
    Untroubled host (loop.goUnder token source restore callers host) := by
  unfold goUnder
  split
  · exact ⟨rfl, rfl⟩
  · cases restore with
    | none => exact ⟨capturedPanics_changeToken loop token, rfl⟩
    | some restore =>
        exact (untroubled_descend _ _ _).later (capturedPanics_changeToken loop token)

theorem untroubled_goBackTo (loop : Loop Memory form) (token : Token) (result : Result) :
    Untroubled host (loop.goBackTo token result callers host) := by
  unfold goBackTo
  split
  · exact ⟨rfl, rfl⟩
  · exact ⟨capturedPanics_changeToken loop token, rfl⟩

end Loop

namespace Machine

variable {host : Host Memory} {callers : Callers Memory last .unit}

theorem Detached.untroubled {run epoch : Nat} {token : Token} {after : Machine Memory last}
    (detached : Detached host run epoch token callers after) : Untroubled host after := by
  cases detached with
  | unbounded | waits | crossed => exact ⟨rfl, rfl⟩
  | @takesUp _ _ outcome => cases outcome <;> exact ⟨rfl, rfl⟩

theorem Completed.untroubled {completer : Completer} {outcome : Outcome Value}
    {after : Machine Memory last} (completed : Completed host completer outcome callers after) :
    Untroubled host after := by
  cases completed with
  | ignored | parked => exact ⟨rfl, rfl⟩
  | resumes => cases outcome <;> exact ⟨rfl, rfl⟩

theorem Ended.untroubled {run : Nat} {outcome : Outcome Value} {after : Machine Memory last}
    (ended : Ended host run outcome callers after) : Untroubled host after := by
  cases ended <;> exact ⟨rfl, rfl⟩

theorem untroubled_answer {form : Form} (callers : Callers Memory last form)
    (answer : Answer Memory form) : Untroubled host (callers.answer answer host) := by
  cases callers with
  | bottom => exact ⟨rfl, rfl⟩
  | push caller callers =>
      cases caller with
      | switching loop source restore =>
          cases answer
          exact (loop.untroubled_goUnder _ source restore).later rfl
      | restoring loop result =>
          cases answer
          exact (loop.untroubled_goBackTo _ result).later rfl
      | registering run epoch token =>
          cases answer
          exact (detached ..).untroubled.later rfl
      | detaching run epoch token =>
          cases answer
          exact (detached ..).untroubled
      | _ => cases answer; exact ⟨rfl, rfl⟩

theorem untroubled_evaluate {form : Form} (code : Code Memory form)
    (callers : Callers Memory last form) (calm : code.isPanic = false) :
    Untroubled host (evaluate code callers host) := by
  cases code with
  | done answer => exact untroubled_answer callers answer
  | ask request next => exact ⟨host.capturedPanics_reply request, rfl⟩
  | panic payload silent => cases calm
  | onThread name body next =>
      exact untroubled_spawn name _ (fun callers host => ⟨.code (body ()) callers, host⟩) _ _
        fun callers host => ⟨rfl, rfl⟩
  | execute context task next => exact untroubled_execute context _ _ _
  | runTask task next =>
      simp only [evaluate]
      split
      · rename_i after taken
        obtain rfl : (host.takeTask task).2 = after := by rw [taken]
        exact ⟨rfl, rfl⟩
      · rename_i given after taken
        obtain rfl : (host.takeTask task).2 = after := by rw [taken]
        exact (untroubled_perform given _ _).later rfl
  | _ => exact ⟨rfl, rfl⟩

/-- The panics that the next move captures: at most one, the one that unwinds, if it has reached a
guard. -/
def captures (machine : Machine Memory last) : List Capture :=
  match machine.focus with
  | .unwind payload (.push caller _) =>
      if caller.isGuard then [⟨payload, (machine.host.capture payload).1, caller.isCatch⟩] else []
  | _ => []

/-- A move captures a panic that is in flight, keeps it in flight, or puts one in flight. -/
theorem balance_next (machine : Machine Memory last) :
    machine.focus.inFlight ++ machine.focus.raises =
      machine.captures.map Capture.payload ++ machine.next.focus.inFlight := by
  obtain ⟨focus, host⟩ := machine
  have nothing {after : Machine Memory last} (untroubled : Untroubled host after) :
      after.focus.inFlight = [] := by
    have steady := untroubled.steady
    cases focus : after.focus <;> simp_all [Focus.isUnwinding, Focus.inFlight]
  cases focus with
  | code code callers =>
      cases panics : code.isPanic with
      | true =>
          obtain ⟨payload, silent, rfl⟩ := Code.eq_panic panics
          rfl
      | false =>
          have quiet : (Focus.code code callers).raises = [] := by
            cases code <;> first | rfl | cases panics
          exact quiet.trans (nothing (untroubled_evaluate code callers panics)).symm
  | iterate loop plan callers => exact (nothing (loop.untroubled_iterate plan)).symm
  | feed loop result callers => exact (nothing (loop.untroubled_feed result)).symm
  | finish run outcome callers => exact (nothing (ended ..).untroubled).symm
  | complete completer outcome callers =>
      exact (nothing (completed ..).untroubled).symm
  | unwind payload callers =>
      cases callers with
      | bottom => rfl
      | push caller callers =>
          cases caller with
          | code | waiting | stepping | detaching => exact List.append_nil _
          | _ => rfl
  | halted ending => rfl

theorem capturedPanics_next (machine : Machine Memory last) :
    machine.next.host.capturedPanics = machine.host.capturedPanics + machine.captures.length ∧
      machine.captures.map (·.panic.number) =
        List.range' (machine.host.capturedPanics + 1) machine.captures.length := by
  obtain ⟨focus, host⟩ := machine
  have nothing {after : Machine Memory last} (untroubled : Untroubled host after) :
      after.host.capturedPanics = host.capturedPanics + 0 ∧ ([] : List Nat) = [] :=
    ⟨untroubled.captured, rfl⟩
  cases focus with
  | code code callers =>
      cases panics : code.isPanic with
      | true =>
          obtain ⟨payload, silent, rfl⟩ := Code.eq_panic panics
          cases silent with
          | true => exact ⟨rfl, rfl⟩
          | false => exact ⟨host.capturedPanics_report payload, rfl⟩
      | false => exact nothing (untroubled_evaluate code callers panics)
  | iterate loop plan callers => exact nothing (loop.untroubled_iterate plan)
  | feed loop result callers => exact nothing (loop.untroubled_feed result)
  | finish run outcome callers => exact nothing (ended ..).untroubled
  | complete completer outcome callers => exact nothing (completed ..).untroubled
  | unwind payload callers =>
      cases callers with
      | bottom => exact ⟨rfl, rfl⟩
      | push caller callers => cases caller <;> exact ⟨rfl, rfl⟩
  | halted ending => exact ⟨rfl, rfl⟩

end Machine

end Trampoline
