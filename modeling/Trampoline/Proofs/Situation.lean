import Trampoline.Proofs.Standing

/-!
What a move does to the runs of a host.

A situation is what matters of a machine for its runs: the loops that are open, the registrations
that are, the nested runs that have yet to start, the outcomes on their way to another run, and the
runs themselves.  However many kinds of moves a machine has, `Effect` names the few things
that can happen to a situation, with the happenings that go with each.
-/

namespace Trampoline

variable {Memory : Type} {last : Form}

/-- A registration that has been called and has not returned, and the thread it runs on. -/
structure Opening where
  run : Nat
  epoch : Nat
  token : Token
  thread : Nat
  deriving DecidableEq, Repr

/-- A nested run that has yet to start: its outcome will complete a boundary. -/
structure Due (Memory : Type) where
  plan : Plan Memory
  pending : Stack (Frame Memory)
  token : Token
  completer : Completer

structure Situation (Memory : Type) where
  /-- The runs whose loops are open, with where they stand, the innermost first. -/
  loops : List (Nat × Standing Memory)
  openings : List Opening
  due : List (Due Memory)
  /-- The outcomes of nested runs that are about to complete a boundary. -/
  telling : List (Completer × Outcome Value)
  runs : Array (Run Memory)
  /-- The epochs of the completions that were reported as ignored, the latest first. -/
  warnings : List Nat

/-- Where the run that a loop is for stands. -/
def Loop.standing {form : Form} (loop : Loop Memory form)
    (standing : List (Frame Memory) → Token → Standing Memory) : List (Nat × Standing Memory) :=
  match loop.purpose with
  | .run run => [(run, standing loop.pending.toList loop.token)]
  | .step => []

def Caller.loops {form rest : Form} : Caller Memory form rest → List (Nat × Standing Memory)
  | .suspended loop onPanic => loop.standing (.calling (.suspended onPanic))
  | .delayed loop onPanic => loop.standing (.calling (.delayed onPanic))
  | .namingSuspended loop => loop.standing (.calling .namingSuspended)
  | .namingDelayed loop => loop.standing (.calling .namingDelayed)
  | .continuing loop => loop.standing (.calling .continuing)
  | .mapping loop => loop.standing (.calling .mapping)
  | .switching loop source restore => loop.standing (.calling (.switching source restore))
  | .restoring loop result => loop.standing (.calling (.restoring result))
  | _ => []

def Caller.openings {form rest : Form} (thread : Nat) : Caller Memory form rest → List Opening
  | .registering run epoch token | .detaching run epoch token => [⟨run, epoch, token, thread⟩]
  | _ => []

def Caller.threadBelow {form rest : Form} (thread : Nat) : Caller Memory form rest → Nat
  | .joining outer _ | .spawning outer => outer.id
  | _ => thread

namespace Callers

def loops {form : Form} : Callers Memory last form → List (Nat × Standing Memory)
  | .bottom => []
  | .push caller callers => caller.loops ++ callers.loops

def openings {form : Form} (thread : Nat) : Callers Memory last form → List Opening
  | .bottom => []
  | .push caller callers => caller.openings thread ++ callers.openings (caller.threadBelow thread)

end Callers

namespace Focus

def loops : Focus Memory last → List (Nat × Standing Memory)
  | .code _ callers | .complete _ _ callers | .unwind _ callers => callers.loops
  | .iterate loop plan callers => loop.standing (.iterating plan) ++ callers.loops
  | .feed loop result callers => loop.standing (.feeding result) ++ callers.loops
  | .finish run outcome callers => (run, .ending outcome) :: callers.loops
  | .halted _ => []

def openings (thread : Nat) : Focus Memory last → List Opening
  | .code _ callers | .complete _ _ callers | .unwind _ callers | .iterate _ _ callers
  | .feed _ _ callers | .finish _ _ callers => callers.openings thread
  | .halted _ => []

def telling : Focus Memory last → List (Completer × Outcome Value)
  | .complete completer outcome callers =>
      if callers.maker = .run then [(completer, outcome)] else []
  | _ => []

end Focus

def Task.due? : Task Memory → Option (Due Memory)
  | .code _ => none
  | .run source token completer => some ⟨source, {}, token, completer⟩

def Host.due (host : Host Memory) : List (Due Memory) :=
  host.tasks.toList.filterMap (·.bind Task.due?)

def Entry.ignored? : Entry → Option Nat
  | .event (.ignoredCompletion epoch) => some epoch
  | _ => none

def Host.warnings (host : Host Memory) : List Nat :=
  host.journal.filterMap Entry.ignored?

def Registration.due (registration : Registration Memory) (token : Token)
    (completer : Completer) : List (Due Memory) :=
  match registration with
  | .calling _ => []
  | .hopping source _ => [⟨source, {}, token, completer⟩]
  | .finishing head pending => [⟨head, pending, token, completer⟩]

/-- The completion that telling an outcome leads to. -/
def Receiver.telling (receiver : Receiver Memory) (outcome : Outcome Value) :
    List (Completer × Outcome Value) :=
  match receiver with
  | .forward completer => [(completer, outcome)]
  | .code _ | .nobody => []

def Receiver.isForward : Receiver Memory → Bool
  | .forward _ => true
  | .code _ | .nobody => false

namespace Machine

def situation (machine : Machine Memory last) : Situation Memory where
  loops := machine.focus.loops
  openings := machine.focus.openings machine.host.thread.id
  due := machine.host.due
  telling := machine.focus.telling
  runs := machine.host.runs
  warnings := machine.host.warnings

end Machine

def boundaryOf (runs : Array (Run Memory)) (run : Nat) : Option (Boundary Memory) :=
  runs[run]?.bind Run.boundary

def withBoundary (runs : Array (Run Memory)) (run : Nat) (boundary : Boundary Memory) :
    Array (Run Memory) :=
  runs.modify run fun entry => { entry with boundary := some boundary }

def withOutcome (runs : Array (Run Memory)) (run : Nat) (outcome : Outcome Value) :
    Array (Run Memory) :=
  runs.modify run fun entry => { entry with outcome := some outcome }

/-- The runs as they are, or with another token for the boundary of one of them. -/
def Retokened (run : Nat) (runs after : Array (Run Memory)) : Prop :=
  after = runs ∨ ∃ token, after = runs.modify run fun entry =>
    { entry with boundary := entry.boundary.map fun boundary => { boundary with token } }

/-- What an attempt takes from the outcomes on their way to another run. -/
def Maker.Takes (maker : Maker) (completer : Completer) (outcome : Outcome Value)
    (telling rest : List (Completer × Outcome Value)) : Prop :=
  match maker with
  | .run => telling = (completer, outcome) :: rest
  | .code | .registration => telling = rest

/-- One thing that happens to a situation, on a thread. -/
inductive Effect (thread : Nat) :
    Situation Memory → List (Nat × Happening Memory) → Situation Memory → Prop where
  | loop {run standing next happenings loops openings due telling runs after warnings}
      (leads : Standing.Leads standing happenings next)
      (inner : happenings.all Happening.isInner = true) (kept : Retokened run runs after) :
      Effect thread ⟨(run, standing) :: loops, openings, due, telling, runs, warnings⟩
        (happenings.map fun happening => (run, happening))
        ⟨(run, next) :: loops, openings, due, telling, after, warnings⟩
  | reach {run registration pending token boundary loops openings due telling runs warnings}
      (armed : boundary = ((boundaryOf runs run).getD { token }).arm token thread pending) :
      Effect thread
        ⟨(run, .iterating (.async registration) pending.toList token) :: loops, openings, due,
          telling, runs, warnings⟩
        [(run, .looked token false), (run, .reached boundary.epoch registration token pending)]
        ⟨loops, ⟨run, boundary.epoch, token, thread⟩ :: openings,
          due ++ registration.due token ⟨run, boundary.epoch⟩, telling,
          withBoundary runs run boundary, warnings⟩
  | start {plan pending token receiver loops openings due telling runs warnings}
      (direct : receiver.isForward = false) :
      Effect thread ⟨loops, openings, due, telling, runs, warnings⟩
        [(runs.size, .started plan pending token receiver)]
        ⟨(runs.size, .iterating plan pending.toList token) :: loops, openings, due, telling,
          runs.push { receiver }, warnings⟩
  | launch {nested loops openings before behind telling runs warnings} :
      Effect thread ⟨loops, openings, before ++ nested :: behind, telling, runs, warnings⟩
        [(runs.size,
          .started nested.plan nested.pending nested.token (.forward nested.completer))]
        ⟨(runs.size, .iterating nested.plan nested.pending.toList nested.token) :: loops, openings,
          before ++ behind, telling, runs.push { receiver := .forward nested.completer },
          warnings⟩
  /-- A context refuses a nested run. -/
  | lose {nested loops openings before behind telling runs warnings} :
      Effect thread ⟨loops, openings, before ++ nested :: behind, telling, runs, warnings⟩ []
        ⟨loops, openings, before ++ behind, telling, runs, warnings⟩
  | ignore {completer outcome maker loops openings due telling rest runs warnings}
      (refused : (boundaryOf runs completer.run).all fun boundary =>
        !(decide (boundary.epoch = completer.epoch) && boundary.isArmed))
      (takes : maker.Takes completer outcome telling rest) :
      Effect thread ⟨loops, openings, due, telling, runs, warnings⟩
        [(completer.run, .attempted completer.epoch outcome maker)]
        ⟨loops, openings, due, rest, runs, completer.epoch :: warnings⟩
  | park {completer outcome maker boundary parked loops openings due telling rest runs warnings}
      (found : boundaryOf runs completer.run = some boundary)
      (accepted : boundary.complete completer.epoch thread outcome = .parked parked)
      (takes : maker.Takes completer outcome telling rest) :
      Effect thread ⟨loops, openings, due, telling, runs, warnings⟩
        [(completer.run, .attempted completer.epoch outcome maker),
          (completer.run, .crossed completer.epoch outcome)]
        ⟨loops, openings, due, rest, withBoundary runs completer.run parked, warnings⟩
  | resume {completer outcome maker boundary resumed pending loops openings due telling rest runs warnings}
      (found : boundaryOf runs completer.run = some boundary)
      (accepted : boundary.complete completer.epoch thread outcome = .resumed resumed pending)
      (takes : maker.Takes completer outcome telling rest) :
      Effect thread ⟨loops, openings, due, telling, runs, warnings⟩
        [(completer.run, .attempted completer.epoch outcome maker),
          (completer.run, .crossed completer.epoch outcome)]
        ⟨(completer.run, .after outcome pending.toList resumed.token) :: loops, openings, due, rest,
          withBoundary runs completer.run resumed, warnings⟩
  | wait {opening boundary left loops openings due telling runs warnings}
      (found : boundaryOf runs opening.run = some boundary) (here : opening.thread = thread)
      (waits : boundary.detach opening.epoch = (none, left)) :
      Effect thread ⟨loops, opening :: openings, due, telling, runs, warnings⟩
        [(opening.run, .returned opening.epoch)]
        ⟨loops, openings, due, telling, withBoundary runs opening.run left, warnings⟩
  | takeUp {opening boundary left outcome pending loops openings due telling runs warnings}
      (found : boundaryOf runs opening.run = some boundary) (here : opening.thread = thread)
      (taken : boundary.detach opening.epoch = (some (outcome, pending), left)) :
      Effect thread ⟨loops, opening :: openings, due, telling, runs, warnings⟩
        [(opening.run, .returned opening.epoch)]
        ⟨(opening.run, .after outcome pending.toList opening.token) :: loops, openings, due,
          telling, withBoundary runs opening.run left, warnings⟩
  | tell {run outcome entry loops openings due telling runs warnings} (found : runs[run]? = some entry)
      (untold : entry.outcome = none) :
      Effect thread ⟨(run, .ending outcome) :: loops, openings, due, telling, runs, warnings⟩
        [(run, .told outcome)]
        ⟨loops, openings, due, entry.receiver.telling outcome ++ telling,
          withOutcome runs run outcome, warnings⟩

inductive Effects (thread : Nat) :
    Situation Memory → List (Nat × Happening Memory) → Situation Memory → Prop where
  | none {situation} : Effects thread situation [] situation
  | more {situation next goal happenings rest} : Effect thread situation happenings next →
      Effects thread next rest goal → Effects thread situation (happenings ++ rest) goal

namespace Effects

variable {thread : Nat} {situation next goal : Situation Memory}
  {happenings rest : List (Nat × Happening Memory)}

theorem one (effect : Effect thread situation happenings next) :
    Effects thread situation happenings next := by
  have effects := Effects.more effect .none
  rwa [List.append_nil] at effects

theorem of_eq (same : situation = next) : Effects thread situation [] next := same ▸ .none

end Effects

end Trampoline
