import Trampoline.Machine.Run

/-!
What comes of the moves of a run as a whole.

A registration that returns finds its boundary still registering, crossed, or with an outcome
parked; an attempt is ignored, parked, or resumes the run; and a run that ends tells its receiver,
unless it has told already.  Whatever these moves keep is shown by cases on what comes of them.
-/

namespace Trampoline

variable {Memory : Type} {last : Form}

def Focus.goingOn (run : Nat) (outcome : Outcome Value) (pending : Stack (Frame Memory))
    (token : Token) (callers : Callers Memory last .unit) : Focus Memory last :=
  match outcome with
  | .completed value => .iterate { purpose := .run run, pending, token } (.pure value) callers
  | .failed failure => .iterate { purpose := .run run, pending, token } (.raise failure) callers
  | .canceled => .finish run .canceled callers

def Host.tell (host : Host Memory) (run : Nat) (outcome : Outcome Value) : Host Memory :=
  { host with runs := host.runs.modify run fun entry => { entry with outcome := some outcome } }

namespace Machine

inductive Detached (host : Host Memory) (run epoch : Nat) (token : Token)
    (callers : Callers Memory last .unit) : Machine Memory last → Prop where
  | unbounded (missing : host.boundary? run = none) :
      Detached host run epoch token callers (finished callers host)
  | waits {boundary : Boundary Memory} {thread : Nat} {pending : Stack (Frame Memory)}
      (found : host.boundary? run = some boundary) (current : boundary.epoch = epoch)
      (held : boundary.phase = .registering thread pending) :
      Detached host run epoch token callers
        (finished callers (host.setBoundary run { boundary with phase := .waiting pending }))
  | crossed {boundary : Boundary Memory} (found : host.boundary? run = some boundary)
      (left : boundary.epoch = epoch →
        boundary.phase = .idle ∨ ∃ pending, boundary.phase = .waiting pending) :
      Detached host run epoch token callers (finished callers (host.setBoundary run boundary))
  | takesUp {boundary : Boundary Memory} {pending : Stack (Frame Memory)} {outcome : Outcome Value}
      (found : host.boundary? run = some boundary) (current : boundary.epoch = epoch)
      (held : boundary.phase = .parked pending outcome) :
      Detached host run epoch token callers ⟨.goingOn run outcome pending token callers,
        (host.setBoundary run { boundary with phase := .idle }).emit (.completedInline epoch)⟩

inductive Completed (host : Host Memory) (completer : Completer) (outcome : Outcome Value)
    (callers : Callers Memory last .unit) : Machine Memory last → Prop where
  | ignored (refused : ∀ boundary, host.boundary? completer.run = some boundary →
        ¬(boundary.epoch = completer.epoch ∧ boundary.isArmed = true)) :
      Completed host completer outcome callers
        (finished callers (host.emit (.ignoredCompletion completer.epoch)))
  | parked {boundary : Boundary Memory} {pending : Stack (Frame Memory)}
      (found : host.boundary? completer.run = some boundary)
      (current : boundary.epoch = completer.epoch)
      (held : boundary.phase = .registering host.thread.id pending) :
      Completed host completer outcome callers (finished callers
        (host.setBoundary completer.run { boundary with phase := .parked pending outcome }))
  | resumes {boundary : Boundary Memory} {pending : Stack (Frame Memory)}
      (found : host.boundary? completer.run = some boundary)
      (current : boundary.epoch = completer.epoch)
      (held : (∃ registrar, boundary.phase = .registering registrar pending ∧
          registrar ≠ host.thread.id) ∨ boundary.phase = .waiting pending) :
      Completed host completer outcome callers
        ⟨.goingOn completer.run outcome pending boundary.token callers,
          (host.setBoundary completer.run { boundary with phase := .idle }).emit
            (.resuming completer.epoch)⟩

inductive Ended (host : Host Memory) (run : Nat) (outcome : Outcome Value)
    (callers : Callers Memory last .unit) : Machine Memory last → Prop where
  | unknown (missing : host.runs[run]? = none) :
      Ended host run outcome callers (finished callers host)
  | told {entry : Run Memory} (found : host.runs[run]? = some entry)
      (before : entry.outcome.isSome = true) :
      Ended host run outcome callers (finished callers (host.emit .droppedOutcome))
  | calls {receive : Outcome Value → Code Memory .unit} {boundary : Option (Boundary Memory)}
      (found : host.runs[run]? = some ⟨.code receive, none, boundary⟩) :
      Ended host run outcome callers
        ⟨.code (receive outcome) (.push .telling callers), (host.tell run outcome).openGuard⟩
  | forwards {completer : Completer} {boundary : Option (Boundary Memory)}
      (found : host.runs[run]? = some ⟨.forward completer, none, boundary⟩) :
      Ended host run outcome callers
        ⟨.complete completer outcome (.push .telling callers), (host.tell run outcome).openGuard⟩
  | drops {boundary : Option (Boundary Memory)}
      (found : host.runs[run]? = some ⟨.nobody, none, boundary⟩) :
      Ended host run outcome callers
        (finished (.push .telling callers) (host.tell run outcome).openGuard)

variable (host : Host Memory) (callers : Callers Memory last .unit)

theorem detached (run epoch : Nat) (token : Token) :
    Detached host run epoch token callers (detach run epoch token callers host) := by
  unfold detach
  cases found : host.boundary? run with
  | none => exact .unbounded found
  | some boundary =>
      rcases left : boundary.detach epoch with ⟨_ | ⟨outcome, pending⟩, after⟩
      · simp only [Option.map_some, left]
        rcases Boundary.detach_eq_none left with ⟨thread, pending, current, held, rfl⟩ | ⟨rfl, gone⟩
        · exact .waits found current held
        · exact .crossed found gone
      · simp only [Option.map_some, left]
        obtain ⟨current, held, rfl⟩ := Boundary.detach_eq_some_iff.1 left
        have takesUp : Detached host run epoch token callers _ := .takesUp found current held
        cases outcome <;> exact takesUp

theorem completed (completer : Completer) (outcome : Outcome Value) :
    Completed host completer outcome callers (complete completer outcome callers host) := by
  unfold complete
  cases found : host.boundary? completer.run with
  | none => exact .ignored fun _ same => nomatch found.symm.trans same
  | some boundary =>
      simp only [Option.map_some, Option.getD_some]
      split
      · rename_i attempted
        refine .ignored fun other same => ?_
        cases found.symm.trans same
        exact (Boundary.complete_eq_ignored_iff ..).1 attempted
      · rename_i parked attempted
        obtain ⟨current, pending, held, rfl⟩ := Boundary.complete_eq_parked_iff.1 attempted
        exact .parked found current held
      · rename_i resumed pending attempted
        obtain ⟨current, held, rfl⟩ := Boundary.complete_eq_resumed_iff.1 attempted
        have resumes : Completed host completer outcome callers _ := .resumes found current held
        cases outcome <;> exact resumes

theorem ended (run : Nat) (outcome : Outcome Value) :
    Ended host run outcome callers (finish run outcome callers host) := by
  unfold finish
  cases found : host.runs[run]? with
  | none => exact .unknown found
  | some entry =>
      obtain ⟨receiver, before, boundary⟩ := entry
      cases before with
      | some earlier => exact .told found rfl
      | none =>
          cases receiver with
          | code receive => exact .calls found
          | forward completer => exact .forwards found
          | nobody => exact .drops found

end Machine

end Trampoline
