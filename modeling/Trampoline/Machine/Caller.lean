import Trampoline.Machine.Loop
import Trampoline.Machine.Run

/-!
What callers do with an answer and with a panic.

A guard closes either way.  A panic that stops at a loop becomes a failure of what the loop called:
of a thunk the failure that the thunk's mapper names, of a registration a completion of its
boundary, and of anything else the panic itself.  A receiver that panics is written down, and a
thread that panics has no value.
-/

namespace Trampoline

variable {Memory : Type} {last : Form}

namespace Caller

variable {form rest : Form}

def answer (caller : Caller Memory form rest) (answer : Answer Memory form)
    (callers : Callers Memory last rest) (host : Host Memory) : Machine Memory last :=
  match caller, answer with
  | .code next, .unit => ⟨.code (next ()) callers, host⟩
  | .waiting run next, .unit => ⟨.code (next (host.outcome? run)) callers, host⟩
  | .stepping next, .plan plan =>
      let (kept, host) := host.keep plan
      ⟨.code (next kept) callers, host⟩
  | .joining outer next, .value value =>
      ⟨.code (next (some value)) callers, host.leaveThread outer⟩
  | .spawning outer, .unit => Machine.finished callers (host.leaveThread outer)
  | .guarding next, .value value => ⟨.code (next (.ok value)) callers, host.closeGuard⟩
  | .suspended loop _, .plan plan => ⟨.iterate loop plan callers, host.closeGuard⟩
  | .delayed loop _, .value value => ⟨.feed loop (.ok value) callers, host.closeGuard⟩
  | .namingSuspended loop, .failure failure =>
      ⟨.iterate loop (.raise failure) callers, host.closeGuard⟩
  | .namingDelayed loop, .failure failure =>
      ⟨.feed loop (.error failure) callers, host.closeGuard⟩
  | .continuing loop, .plan plan => ⟨.iterate loop plan callers, host.closeGuard⟩
  | .mapping loop, .value value => ⟨.iterate loop (.pure value) callers, host.closeGuard⟩
  | .switching loop source restore, .token token =>
      loop.goUnder token source restore callers host.closeGuard
  | .restoring loop result, .token token => loop.goBackTo token result callers host.closeGuard
  | .registering run epoch token, .unit => Machine.detach run epoch token callers host.closeGuard
  | .detaching run epoch token, .unit => Machine.detach run epoch token callers host
  | .telling, .unit => Machine.finished callers host.closeGuard

def unwind (caller : Caller Memory form rest) (payload : Payload)
    (callers : Callers Memory last rest) (host : Host Memory) : Machine Memory last :=
  let (panic, caught) := host.capture payload
  match caller with
  | .guarding next => ⟨.code (next (.error panic)) callers, caught⟩
  | .suspended loop onPanic => Machine.call (onPanic panic) (.namingSuspended loop) callers caught
  | .delayed loop onPanic => Machine.call (onPanic panic) (.namingDelayed loop) callers caught
  | .namingDelayed loop => ⟨.feed loop (.error (.panicked panic)) callers, caught⟩
  | .namingSuspended loop | .continuing loop | .mapping loop | .switching loop _ _
  | .restoring loop _ => ⟨.iterate loop (.raise (.panicked panic)) callers, caught⟩
  | .registering run epoch token =>
      ⟨.complete ⟨run, epoch⟩ (.failed (.panicked panic))
        (.push (.detaching run epoch token) callers), caught⟩
  | .telling => Machine.finished callers (caught.emit (.receiverPanicked panic.message))
  | .joining outer next => ⟨.code (next none) callers, host.leaveThread outer⟩
  | .spawning outer => Machine.finished callers (host.leaveThread outer)
  | .code _ | .waiting _ _ | .stepping _ | .detaching _ _ _ => ⟨.unwind payload callers, host⟩

end Caller

/-- Give an answer to the innermost caller; without one the machine has ended. -/
def Callers.answer {form : Form} (callers : Callers Memory last form)
    (answer : Answer Memory form) (host : Host Memory) : Machine Memory last :=
  match callers, answer with
  | .bottom, answer => ⟨.halted (.ok answer), host⟩
  | .push caller callers, answer => caller.answer answer callers host

def Callers.unwind {form : Form} (callers : Callers Memory last form) (payload : Payload)
    (host : Host Memory) : Machine Memory last :=
  match callers with
  | .bottom => ⟨.halted (.error payload), host⟩
  | .push caller callers => caller.unwind payload callers host

end Trampoline
