import Trampoline.Machine.Call

/-!
Moves of a run as a whole: its boundary is left or completed, and its outcome is told.

A completion that a boundary accepts either is parked, for the loop that is still registering, or
resumes the run on the current thread.  A run tells its outcome once.
-/

namespace Trampoline

variable {Memory : Type} {last : Form}

namespace Machine

/-- A registration has returned: the loop goes on with a parked outcome, or leaves the run to
whoever completes the boundary. -/
def detach (run epoch : Nat) (token : Token) (callers : Callers Memory last .unit)
    (host : Host Memory) : Machine Memory last :=
  match (host.boundary? run).map (Boundary.detach · epoch) with
  | none => finished callers host
  | some (none, boundary) => finished callers (host.setBoundary run boundary)
  | some (some (outcome, pending), boundary) =>
      let host := (host.setBoundary run boundary).emit (.completedInline epoch)
      match outcome with
      | .canceled => ⟨.finish run .canceled callers, host⟩
      | .completed value =>
          ⟨.iterate { purpose := .run run, pending, token } (.pure value) callers, host⟩
      | .failed failure =>
          ⟨.iterate { purpose := .run run, pending, token } (.raise failure) callers, host⟩

def finish (run : Nat) (outcome : Outcome Value) (callers : Callers Memory last .unit)
    (host : Host Memory) : Machine Memory last :=
  match host.runs[run]? with
  | none => finished callers host
  | some { receiver, outcome := told, .. } =>
      if told.isSome then finished callers (host.emit .droppedOutcome)
      else
        let runs := host.runs.modify run fun entry => { entry with outcome := some outcome }
        let host := { host with runs }.openGuard
        let callers := Callers.push .telling callers
        match receiver with
        | .code receive => ⟨.code (receive outcome) callers, host⟩
        | .forward completer => ⟨.complete completer outcome callers, host⟩
        | .nobody => finished callers host

def complete (completer : Completer) (outcome : Outcome Value)
    (callers : Callers Memory last .unit) (host : Host Memory) : Machine Memory last :=
  let attempted := (host.boundary? completer.run).map fun boundary =>
    boundary.complete completer.epoch host.thread.id outcome
  match attempted.getD .ignored with
  | .ignored => finished callers (host.emit (.ignoredCompletion completer.epoch))
  | .parked boundary => finished callers (host.setBoundary completer.run boundary)
  | .resumed boundary pending =>
      let host := (host.setBoundary completer.run boundary).emit (.resuming completer.epoch)
      let loop : Loop Memory .unit :=
        { purpose := .run completer.run, pending, token := boundary.token }
      match outcome with
      | .canceled => ⟨.finish completer.run .canceled callers, host⟩
      | .completed value => ⟨.iterate loop (.pure value) callers, host⟩
      | .failed failure => ⟨.iterate loop (.raise failure) callers, host⟩

end Machine

end Trampoline
