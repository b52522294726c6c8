import Trampoline.Machine.Call

/-!
Moves of a loop.

A sequencing plan pushes a frame and goes on with its source; a result goes to the nearest frame
that takes it.  All code a loop calls is called under a guard.  A run looks at its token when an
iteration starts; stepping has no token, and stops at a plan that needs one.
-/

namespace Trampoline

variable {Memory : Type} {last : Form}

namespace Loop

variable {form : Form}

/-- Push a frame; the settings are read when the stack overflows. -/
def push (loop : Loop Memory form) (frame : Frame Memory) (host : Host Memory) :
    Loop Memory form × Host Memory :=
  match loop with
  | ⟨purpose, pending, token⟩ =>
      let host := if pending.isOccupied then host.readSettings.2 else host
      (⟨purpose, pending.push frame, token⟩, host)

def descend (loop : Loop Memory form) (frame : Frame Memory) (source : Plan Memory)
    (callers : Callers Memory last form) (host : Host Memory) : Machine Memory last :=
  let (loop, host) := loop.push frame host
  ⟨.iterate loop source callers, host⟩

def changeToken (loop : Loop Memory form) (token : Token) (host : Host Memory) :
    Loop Memory form × Host Memory :=
  match loop.purpose with
  | .run run => ({ loop with token }, host.changeToken run token)
  | .step => ({ loop with token }, host)

/-- Stepping stops at a plan: what is left is the plan with the frames pending on it. -/
def stop (pending : Stack (Frame Memory)) (head : Plan Memory)
    (callers : Callers Memory last .plan) (host : Host Memory) : Machine Memory last :=
  if pending.isEmpty then ⟨.code (Code.plan head) callers, host⟩
  else
    ⟨.code (Code.plan (.async (.finishing head pending))) callers,
      host.emit (.stepStopped pending.size)⟩

def suspend (loop : Loop Memory form) (registration : Registration Memory)
    (callers : Callers Memory last form) (host : Host Memory) : Machine Memory last :=
  match form, loop, callers with
  | _, ⟨.step, pending, _⟩, callers => stop pending (.async registration) callers host
  | _, ⟨.run run, pending, token⟩, callers =>
      let boundary := ((host.boundary? run).getD { token }).arm token host.thread.id pending
      let host := (host.setBoundary run boundary).emit (.suspending boundary.epoch)
      registration.call token ⟨run, boundary.epoch⟩
        (.push (.registering run boundary.epoch token) callers) host.openGuard

def switch (loop : Loop Memory form) (source : Plan Memory)
    (modify : Token → Code Memory .token)
    (restore : Option (Result → Token → Token → Code Memory .token))
    (callers : Callers Memory last form) (host : Host Memory) : Machine Memory last :=
  match form, loop, callers with
  | _, ⟨.step, pending, _⟩, callers => stop pending (.switch source modify restore) callers host
  | _, ⟨.run run, pending, token⟩, callers =>
      Machine.call (modify token) (.switching ⟨.run run, pending, token⟩ source restore) callers
        host

def advance (loop : Loop Memory form) (current : Plan Memory)
    (callers : Callers Memory last form) (host : Host Memory) : Machine Memory last :=
  match current with
  | .pure value => ⟨.feed loop (.ok value) callers, host⟩
  | .raise failure => ⟨.feed loop (.error failure) callers, host⟩
  | .suspendWith thunk onPanic => Machine.call (thunk ()) (.suspended loop onPanic) callers host
  | .delayWith thunk onPanic => Machine.call (thunk ()) (.delayed loop onPanic) callers host
  | .async registration => loop.suspend registration callers host
  | .bind source next => loop.descend (.bind next) source callers host
  | .map source change => loop.descend (.map change) source callers host
  | .handle source handler => loop.descend (.handle handler) source callers host
  | .redeem source onFailure onValue =>
      loop.descend (.redeem onFailure onValue) source callers host
  | .continueOn source context =>
      ⟨.iterate loop (.async (.hopping source context)) callers, host⟩
  | .switch source modify restore => loop.switch source modify restore callers host
  | .held kept => ⟨.iterate loop (host.held kept) callers, host⟩

/-- Start an iteration: a run that finds its token canceled ends there. -/
def iterate (loop : Loop Memory form) (current : Plan Memory)
    (callers : Callers Memory last form) (host : Host Memory) : Machine Memory last :=
  match form, loop, callers with
  | _, ⟨.run run, pending, token⟩, callers =>
      if host.tokens.isCanceled token then
        ⟨.finish run .canceled callers, host.emit (.observedCancellation token.number)⟩
      else advance ⟨.run run, pending, token⟩ current callers host
  | _, ⟨.step, pending, token⟩, callers => advance ⟨.step, pending, token⟩ current callers host

def conclude (loop : Loop Memory form) (result : Result) (callers : Callers Memory last form)
    (host : Host Memory) : Machine Memory last :=
  match form, loop, callers with
  | _, ⟨.run run, _, _⟩, callers => ⟨.finish run (.ofResult result) callers, host⟩
  | _, ⟨.step, _, _⟩, callers => ⟨.code (Code.plan (.ofResult result)) callers, host⟩

/-- The frame a result goes to, and the frames below it. -/
def frameFor (pending : Stack (Frame Memory)) :
    Result → Option (Frame Memory) × Stack (Frame Memory)
  | .ok _ => pending.popWhere Frame.acceptsValue
  | .error _ => pending.popWhere Frame.acceptsFailure

def meet (loop : Loop Memory form) (frame : Frame Memory) (result : Result)
    (callers : Callers Memory last form) (host : Host Memory) : Machine Memory last :=
  match frame, result with
  | .bind next, .ok value => Machine.call (next value) (.continuing loop) callers host
  | .redeem _ next, .ok value => Machine.call (next value) (.continuing loop) callers host
  | .map change, .ok value => Machine.call (change value) (.mapping loop) callers host
  | .handle handler, .error failure =>
      Machine.call (handler failure) (.continuing loop) callers host
  | .redeem handler _, .error failure =>
      Machine.call (handler failure) (.continuing loop) callers host
  | .restore old restore, result =>
      Machine.call (restore result old loop.token) (.restoring loop result) callers host
  | .handle _, .ok _ =>
      ⟨.iterate loop (.raise (.internal "error handler popped as a value continuation")) callers,
        host⟩
  | .bind _, .error _ | .map _, .error _ =>
      ⟨.iterate loop (.raise (.internal "value continuation popped as an error handler")) callers,
        host⟩

def feed (loop : Loop Memory form) (result : Result) (callers : Callers Memory last form)
    (host : Host Memory) : Machine Memory last :=
  match loop with
  | ⟨purpose, pending, token⟩ =>
      match frameFor pending result with
      | (none, pending) => conclude ⟨purpose, pending, token⟩ result callers host
      | (some frame, pending) => meet ⟨purpose, pending, token⟩ frame result callers host

def goUnder (loop : Loop Memory form) (token : Token) (source : Plan Memory)
    (restore : Option (Result → Token → Token → Code Memory .token))
    (callers : Callers Memory last form) (host : Host Memory) : Machine Memory last :=
  if token = loop.token then ⟨.iterate loop source callers, host⟩
  else
    let old := loop.token
    let host := host.emit (.switched old.number token.number)
    let (loop, host) := loop.changeToken token host
    match restore with
    | none => ⟨.iterate loop source callers, host⟩
    | some restore => loop.descend (.restore old restore) source callers host

def goBackTo (loop : Loop Memory form) (token : Token) (result : Result)
    (callers : Callers Memory last form) (host : Host Memory) : Machine Memory last :=
  if token = loop.token then ⟨.iterate loop (.ofResult result) callers, host⟩
  else
    let host := host.emit (.restored loop.token.number token.number)
    let (loop, host) := loop.changeToken token host
    ⟨.iterate loop (.ofResult result) callers, host⟩

end Loop

end Trampoline
