import Trampoline.Proofs.Stepping

/-!
An iteration as it is written with a slot for the current plan.

A segment of a loop keeps its current plan in a slot.  An iteration takes the plan out, and each way
through it fills the slot again or leaves the loop.  Nothing in the types says that the next iteration
finds a plan there, nor that a frame is popped only for a result it takes, so there are branches for
the case that it fails.  A turn is all that an iteration may come to, whatever the code answers that
it calls, these branches included.  It is what the machine does, and no way through it leads to one
of them.
-/

namespace Trampoline

variable {Memory : Type} {last form : Form}

/-- What a loop works on between two boundaries. -/
structure Segment (Memory : Type) where
  /-- The slot of the current plan, which is empty while an iteration is under way. -/
  current : Option (Plan Memory)
  pending : Stack (Frame Memory)
  token : Token

inductive Control (Memory : Type) where
  | continues
  | tokenChanged
  /-- The token was found canceled. -/
  | cancels
  | suspends (registration : Registration Memory)
  /-- Stepping is over: what is left is a plan, with the frames that are pending. -/
  | stops (head : Plan Memory)
  | ends (result : Result)

def Control.goesOn : Control Memory → Bool
  | .continues | .tokenChanged => true
  | .cancels | .suspends _ | .stops _ | .ends _ => false

inductive Turn (Memory : Type) where
  | leaves (control : Control Memory) (segment : Segment Memory)
  /-- Call code under a guard, and go on with its answer or with the panic that was caught. -/
  | calls {form : Form} (code : Code Memory form) (answered : Answer Memory form → Turn Memory)
      (panicked : Panic → Turn Memory)
  /-- Take a branch that is there for a broken invariant. -/
  | faults (text : String) (rest : Turn Memory)

namespace Turn

/-- Call code; what it comes to is an answer, or the panic as a failure. -/
def guarded (code : Code Memory form) (use : Except Failure (Answer Memory form) → Turn Memory) :
    Turn Memory :=
  .calls code (fun answer => use (.ok answer)) fun panic => use (.error (.panicked panic))

def guardedNaming (code : Code Memory form) (onPanic : Panic → Code Memory .failure)
    (use : Except Failure (Answer Memory form) → Turn Memory) : Turn Memory :=
  .calls code (fun answer => use (.ok answer)) fun panic =>
    .calls (onPanic panic) (fun (.failure failure) => use (.error failure))
      fun second => use (.error (.panicked second))

end Turn

namespace Segment

def goOn (segment : Segment Memory) (plan : Plan Memory) : Turn Memory :=
  .leaves .continues { segment with current := some plan }

def fault (segment : Segment Memory) (text : String) : Turn Memory :=
  .faults text (segment.goOn (.raise (.internal text)))

def goOnWith (segment : Segment Memory) (found : Except Failure (Answer Memory .plan)) :
    Turn Memory :=
  match found with
  | .ok (.plan plan) => segment.goOn plan
  | .error failure => segment.goOn (.raise failure)

/-- Keep looping under a token; if it is another one, with these frames. -/
def goUnder (segment : Segment Memory) (token : Token) (next : Plan Memory)
    (pending : Stack (Frame Memory)) : Turn Memory :=
  if token = segment.token then segment.goOn next
  else .leaves .tokenChanged { current := some next, pending, token }

def restore (segment : Segment Memory) (old : Token)
    (back : Result → Token → Token → Code Memory .token) (result : Result) : Turn Memory :=
  Turn.guarded (back result old segment.token) fun
    | .ok (.token token) => segment.goUnder token (.ofResult result) segment.pending
    | .error failure => segment.goOn (.raise failure)

def deliver (segment : Segment Memory) (value : Value) : Turn Memory :=
  match segment.pending.popWhere Frame.acceptsValue with
  | (none, pending) => .leaves (.ends (.ok value)) { segment with pending }
  | (some frame, pending) =>
      let segment := { segment with pending }
      match frame with
      | .bind next | .redeem _ next => Turn.guarded (next value) segment.goOnWith
      | .map change =>
          Turn.guarded (change value) fun
            | .ok (.value changed) => segment.goOn (.pure changed)
            | .error failure => segment.goOn (.raise failure)
      | .restore old back => segment.restore old back (.ok value)
      | .handle _ => segment.fault "error handler popped as a value continuation"

def raise (segment : Segment Memory) (failure : Failure) : Turn Memory :=
  match segment.pending.popWhere Frame.acceptsFailure with
  | (none, pending) => .leaves (.ends (.error failure)) { segment with pending }
  | (some frame, pending) =>
      let segment := { segment with pending }
      match frame with
      | .handle handler | .redeem handler _ => Turn.guarded (handler failure) segment.goOnWith
      | .restore old back => segment.restore old back (.error failure)
      | .bind _ | .map _ => segment.fault "value continuation popped as an error handler"

def feedWith (segment : Segment Memory) (found : Except Failure (Answer Memory .value)) :
    Turn Memory :=
  match found with
  | .ok (.value value) => segment.deliver value
  | .error failure => segment.raise failure

def descend (segment : Segment Memory) (frame : Frame Memory) (source : Plan Memory) :
    Turn Memory :=
  { segment with pending := segment.pending.push frame }.goOn source

def switch (segment : Segment Memory) (source : Plan Memory) (modify : Token → Code Memory .token)
    (restore : Option (Result → Token → Token → Code Memory .token)) : Turn Memory :=
  Turn.guarded (modify segment.token) fun
    | .ok (.token token) =>
        segment.goUnder token source <| match restore with
          | none => segment.pending
          | some back => segment.pending.push (.restore segment.token back)
    | .error failure => segment.goOn (.raise failure)

def interpret (held : Nat → Plan Memory) (segment : Segment Memory) : Plan Memory → Turn Memory
  | .pure value => segment.deliver value
  | .raise failure => segment.raise failure
  | .suspendWith thunk onPanic => Turn.guardedNaming (thunk ()) onPanic segment.goOnWith
  | .delayWith thunk onPanic => Turn.guardedNaming (thunk ()) onPanic segment.feedWith
  | .async registration => .leaves (.suspends registration) segment
  | .bind source next => segment.descend (.bind next) source
  | .map source change => segment.descend (.map change) source
  | .handle source handler => segment.descend (.handle handler) source
  | .redeem source onFailure onValue => segment.descend (.redeem onFailure onValue) source
  | .continueOn source context => segment.goOn (.async (.hopping source context))
  | .switch source modify restore => segment.switch source modify restore
  | .held kept => segment.goOn (held kept)

def taking (segment : Segment Memory) (use : Segment Memory → Plan Memory → Turn Memory) :
    Turn Memory :=
  let emptied := { segment with current := none }
  match segment.current with
  | some plan => use emptied plan
  | none =>
      let text := "run loop reached an absent node"
      .faults text (use emptied (.raise (.internal text)))

def advance (held : Nat → Plan Memory) (segment : Segment Memory) : Turn Memory :=
  segment.taking fun segment plan => segment.interpret held plan

/-- One iteration: a run looks at its token first, and stepping stops where the current plan needs
one. -/
def turn (host : Host Memory) : Purpose form → Segment Memory → Turn Memory
  | .run _, segment =>
      if host.tokens.isCanceled segment.token then .leaves .cancels segment
      else segment.advance host.held
  | .step, segment =>
      if segment.current.any Plan.isStop then
        segment.taking fun segment head => .leaves (.stops head) segment
      else segment.advance host.held

end Segment

/-! ### No way through a turn leads to a fault -/

/-- No branch for a broken invariant is taken, and the slot is filled wherever the loop goes on. -/
inductive Turn.Sound : Turn Memory → Prop
  | leaves {control segment} (filled : control.goesOn = true → segment.current.isSome = true) :
      Sound (.leaves control segment)
  | calls {inner} {code : Code Memory inner} {answered panicked}
      (answers : ∀ answer, Sound (answered answer)) (panics : ∀ panic, Sound (panicked panic)) :
      Sound (.calls code answered panicked)

namespace Segment

variable {segment : Segment Memory}

theorem sound_goOn (segment : Segment Memory) (plan : Plan Memory) : (segment.goOn plan).Sound :=
  .leaves fun _ => rfl

theorem sound_guarded (code : Code Memory form)
    {use : Except Failure (Answer Memory form) → Turn Memory} (uses : ∀ found, (use found).Sound) :
    (Turn.guarded code use).Sound :=
  .calls (fun _ => uses _) fun _ => uses _

theorem sound_guardedNaming (code : Code Memory form) (onPanic : Panic → Code Memory .failure)
    {use : Except Failure (Answer Memory form) → Turn Memory} (uses : ∀ found, (use found).Sound) :
    (Turn.guardedNaming code onPanic use).Sound := by
  refine .calls (fun _ => uses _) fun panic => .calls (fun answer => ?_) fun _ => uses _
  cases answer
  exact uses _

theorem sound_goOnWith (segment : Segment Memory) (found : Except Failure (Answer Memory .plan)) :
    (segment.goOnWith found).Sound := by
  rcases found with failure | answer
  · exact segment.sound_goOn _
  · cases answer
    exact segment.sound_goOn _

theorem sound_goUnder (segment : Segment Memory) (token : Token) (next : Plan Memory)
    (pending : Stack (Frame Memory)) : (segment.goUnder token next pending).Sound := by
  unfold goUnder
  split
  · exact segment.sound_goOn next
  · exact .leaves fun _ => rfl

theorem sound_restore (segment : Segment Memory) (old : Token)
    (back : Result → Token → Token → Code Memory .token) (result : Result) :
    (segment.restore old back result).Sound := by
  refine sound_guarded _ fun found => ?_
  rcases found with failure | answer
  · exact segment.sound_goOn _
  · cases answer
    exact segment.sound_goUnder _ _ _

theorem sound_deliver (segment : Segment Memory) (value : Value) :
    (segment.deliver value).Sound := by
  obtain ⟨_, _, popped⟩ := segment.pending.popWhere_spec Frame.acceptsValue
  unfold deliver
  rcases found : segment.pending.popWhere Frame.acceptsValue with ⟨_ | frame, below⟩
  · exact .leaves nofun
  · rw [found] at popped
    cases frame with
    | bind next => exact sound_guarded _ (sound_goOnWith _)
    | redeem handler next => exact sound_guarded _ (sound_goOnWith _)
    | map change =>
        refine sound_guarded _ fun found => ?_
        rcases found with failure | answer
        · exact sound_goOn _ _
        · cases answer
          exact sound_goOn _ _
    | restore old back => exact sound_restore _ old back _
    | handle handler => cases popped.1

theorem sound_raise (segment : Segment Memory) (failure : Failure) :
    (segment.raise failure).Sound := by
  obtain ⟨_, _, popped⟩ := segment.pending.popWhere_spec Frame.acceptsFailure
  unfold raise
  rcases found : segment.pending.popWhere Frame.acceptsFailure with ⟨_ | frame, below⟩
  · exact .leaves nofun
  · rw [found] at popped
    cases frame with
    | handle handler => exact sound_guarded _ (sound_goOnWith _)
    | redeem handler next => exact sound_guarded _ (sound_goOnWith _)
    | restore old back => exact sound_restore _ old back _
    | bind next => cases popped.1
    | map change => cases popped.1

theorem sound_feedWith (segment : Segment Memory) (found : Except Failure (Answer Memory .value)) :
    (segment.feedWith found).Sound := by
  rcases found with failure | answer
  · exact segment.sound_raise failure
  · cases answer
    exact segment.sound_deliver _

theorem sound_switch (segment : Segment Memory) (source : Plan Memory)
    (modify : Token → Code Memory .token)
    (restore : Option (Result → Token → Token → Code Memory .token)) :
    (segment.switch source modify restore).Sound := by
  refine sound_guarded _ fun found => ?_
  rcases found with failure | answer
  · exact segment.sound_goOn _
  · cases answer
    exact segment.sound_goUnder _ _ _

theorem sound_interpret (held : Nat → Plan Memory) (segment : Segment Memory) (plan : Plan Memory) :
    (segment.interpret held plan).Sound := by
  cases plan with
  | pure value => exact segment.sound_deliver value
  | raise failure => exact segment.sound_raise failure
  | suspendWith thunk onPanic => exact sound_guardedNaming _ _ segment.sound_goOnWith
  | delayWith thunk onPanic => exact sound_guardedNaming _ _ segment.sound_feedWith
  | async registration => exact .leaves nofun
  | bind | map | handle | redeem => exact .leaves fun _ => rfl
  | continueOn | held => exact segment.sound_goOn _
  | «switch» source modify restore => exact segment.sound_switch source modify restore

/-- An iteration that finds its slot filled takes no branch for a broken invariant. -/
theorem sound_turn (host : Host Memory) (purpose : Purpose form)
    (filled : segment.current.isSome = true) : (segment.turn host purpose).Sound := by
  obtain ⟨current, pending, token⟩ := segment
  obtain ⟨plan, rfl⟩ := Option.isSome_iff_exists.1 filled
  cases purpose with
  | run run =>
      simp only [turn]
      split
      · exact .leaves nofun
      · exact sound_interpret host.held _ plan
  | step =>
      simp only [turn, Option.any_some]
      split
      · exact .leaves nofun
      · exact sound_interpret host.held _ plan

end Segment

/-! ### The machine plays the turn -/

inductive Control.Plays : {inner : Form} → Purpose inner → Callers Memory last inner →
    Control Memory → Segment Memory → Machine Memory last → Prop
  | continues {inner} {purpose : Purpose inner} {callers plan pending token host} :
      Plays purpose callers .continues ⟨some plan, pending, token⟩
        ⟨.iterate ⟨purpose, pending, token⟩ plan callers, host⟩
  | tokenChanged {inner} {purpose : Purpose inner} {callers plan pending token host} :
      Plays purpose callers .tokenChanged ⟨some plan, pending, token⟩
        ⟨.iterate ⟨purpose, pending, token⟩ plan callers, host⟩
  | cancels {run callers segment host} :
      Plays (.run run) callers .cancels segment ⟨.finish run .canceled callers, host⟩
  | suspends {inner} {purpose : Purpose inner} {callers registration current pending token host} :
      Plays purpose callers (.suspends registration) ⟨current, pending, token⟩
        (Loop.suspend ⟨purpose, pending, token⟩ registration callers host)
  | stops {callers head current pending token host} :
      Plays .step callers (.stops head) ⟨current, pending, token⟩
        (Loop.stop pending head callers host)
  | ends {inner} {purpose : Purpose inner} {callers result current pending token host} :
      Plays purpose callers (.ends result) ⟨current, pending, token⟩
        (Loop.conclude ⟨purpose, pending, token⟩ result callers host)

/-- A machine goes through a turn, whatever is answered and whatever the host is then. -/
inductive Turn.Plays (purpose : Purpose form) (callers : Callers Memory last form) :
    Turn Memory → Machine Memory last → Prop
  | leaves {control segment machine} (told : control.Plays purpose callers segment machine) :
      Plays purpose callers (.leaves control segment) machine
  | calls {inner} {code : Code Memory inner} {answered panicked host}
      (caller : Caller Memory inner form)
      (answers : ∀ answer host,
        Plays purpose callers (answered answer) (caller.answer answer callers host))
      (panics : ∀ payload host, Plays purpose callers (panicked (Host.capture host payload).1)
        (caller.unwind payload callers host)) :
      Plays purpose callers (.calls code answered panicked)
        (Machine.call code caller callers host)
  | faults {text rest machine} (plays : Plays purpose callers rest machine) :
      Plays purpose callers (.faults text rest) machine
  /-- A machine takes a move to find the frame for a result. -/
  | feeds {turn pending token result host}
      (plays : Plays purpose callers turn
        (Loop.feed ⟨purpose, pending, token⟩ result callers host)) :
      Plays purpose callers turn ⟨.feed ⟨purpose, pending, token⟩ result callers, host⟩

namespace Segment

variable {purpose : Purpose form} {callers : Callers Memory last form}
  {pending : Stack (Frame Memory)} {token : Token} {host : Host Memory}

theorem plays_goOn (plan : Plan Memory) {current : Option (Plan Memory)} :
    (goOn ⟨current, pending, token⟩ plan).Plays purpose callers
      ⟨.iterate ⟨purpose, pending, token⟩ plan callers, host⟩ :=
  .leaves .continues

theorem plays_restore {current : Option (Plan Memory)} (old : Token)
    (back : Result → Token → Token → Code Memory .token) (result : Result) :
    (restore ⟨current, pending, token⟩ old back result).Plays purpose callers
      (Machine.call (back result old token) (.restoring ⟨purpose, pending, token⟩ result) callers
        host) := by
  refine .calls (.restoring ⟨purpose, pending, token⟩ result) (fun answer host => ?_)
    fun _ _ => plays_goOn _
  cases answer with
  | token next =>
      simp only [Caller.answer, Loop.goBackTo, goUnder]
      split
      · exact plays_goOn _
      · cases purpose <;> exact .leaves .tokenChanged

theorem plays_continuing {current : Option (Plan Memory)} (code : Code Memory .plan) :
    (Turn.guarded code (goOnWith ⟨current, pending, token⟩)).Plays purpose callers
      (Machine.call code (.continuing ⟨purpose, pending, token⟩) callers host) := by
  refine .calls (.continuing ⟨purpose, pending, token⟩) (fun answer host => ?_)
    fun _ _ => plays_goOn _
  cases answer
  exact plays_goOn _

theorem plays_deliver {current : Option (Plan Memory)} (value : Value) :
    (deliver ⟨current, pending, token⟩ value).Plays purpose callers
      (Loop.feed ⟨purpose, pending, token⟩ (.ok value) callers host) := by
  simp only [deliver, Loop.feed, Loop.frameFor]
  rcases pending.popWhere Frame.acceptsValue with ⟨_ | frame, below⟩
  · exact .leaves .ends
  · cases frame with
    | bind next => exact plays_continuing _
    | redeem handler next => exact plays_continuing _
    | map change =>
        refine .calls (.mapping ⟨purpose, below, token⟩) (fun answer host => ?_)
          fun _ _ => plays_goOn _
        cases answer
        exact plays_goOn _
    | restore old back => exact plays_restore old back _
    | handle handler => exact .faults (plays_goOn _)

theorem plays_raise {current : Option (Plan Memory)} (failure : Failure) :
    (raise ⟨current, pending, token⟩ failure).Plays purpose callers
      (Loop.feed ⟨purpose, pending, token⟩ (.error failure) callers host) := by
  simp only [raise, Loop.feed, Loop.frameFor]
  rcases pending.popWhere Frame.acceptsFailure with ⟨_ | frame, below⟩
  · exact .leaves .ends
  · cases frame with
    | handle handler => exact plays_continuing _
    | redeem handler next => exact plays_continuing _
    | restore old back => exact plays_restore old back _
    | bind next => exact .faults (plays_goOn _)
    | map change => exact .faults (plays_goOn _)

/-- Only a run interprets a plan that needs a token. -/
theorem plays_interpret (plan : Plan Memory) (starts : plan.isStop = false) :
    (interpret host.held ⟨none, pending, token⟩ plan).Plays purpose callers
      (Loop.advance ⟨purpose, pending, token⟩ plan callers host) := by
  cases plan with
  | pure value => exact .feeds (plays_deliver value)
  | raise failure => exact .feeds (plays_raise failure)
  | suspendWith thunk onPanic =>
      refine .calls (.suspended ⟨purpose, pending, token⟩ onPanic) (fun answer host => ?_) ?_
      · cases answer
        exact plays_goOn _
      · refine fun payload host => .calls (.namingSuspended ⟨purpose, pending, token⟩)
          (fun answer host => ?_) fun _ _ => plays_goOn _
        cases answer
        exact plays_goOn _
  | delayWith thunk onPanic =>
      refine .calls (.delayed ⟨purpose, pending, token⟩ onPanic) (fun answer host => ?_) ?_
      · cases answer
        exact .feeds (plays_deliver _)
      · refine fun payload host => .calls (.namingDelayed ⟨purpose, pending, token⟩)
          (fun answer host => ?_) fun _ _ => .feeds (plays_raise _)
        cases answer
        exact .feeds (plays_raise _)
  | bind | map | handle | redeem => exact .leaves .continues
  | continueOn | held => exact plays_goOn _
  | async | «switch» => cases starts

theorem plays_switch {run : Nat} {callers : Callers Memory last .unit} (source : Plan Memory)
    (modify : Token → Code Memory .token)
    (restore : Option (Result → Token → Token → Code Memory .token)) :
    (switch ⟨none, pending, token⟩ source modify restore).Plays (.run run) callers
      (Loop.switch ⟨.run run, pending, token⟩ source modify restore callers host) := by
  refine .calls (.switching ⟨.run run, pending, token⟩ source restore) (fun answer host => ?_)
    fun _ _ => plays_goOn _
  cases answer with
  | token next =>
      simp only [Caller.answer, Loop.goUnder, goUnder]
      split
      · exact plays_goOn _
      · cases restore <;> exact .leaves .tokenChanged

theorem plays_advance {run : Nat} {callers : Callers Memory last .unit} (plan : Plan Memory) :
    (advance host.held ⟨some plan, pending, token⟩).Plays (.run run) callers
      (Loop.advance ⟨.run run, pending, token⟩ plan callers host) := by
  cases starts : plan.isStop with
  | false => exact plays_interpret plan starts
  | true =>
      cases plan with
      | async registration => exact .leaves .suspends
      | «switch» source modify restore => exact plays_switch source modify restore
      | _ => cases starts

/-- An iteration of a machine goes through the turn of its segment. -/
theorem plays_turn (plan : Plan Memory) :
    (turn host purpose ⟨some plan, pending, token⟩).Plays purpose callers
      (Loop.iterate ⟨purpose, pending, token⟩ plan callers host) := by
  cases purpose with
  | run run =>
      simp only [turn, Loop.iterate]
      split
      · exact .leaves .cancels
      · exact plays_advance plan
  | step =>
      simp only [turn, Loop.iterate, Option.any_some]
      split
      · rename_i stops
        cases plan with
        | async registration => exact .leaves .stops
        | «switch» source modify restore => exact .leaves .stops
        | _ => cases stops
      · rename_i starts
        exact plays_interpret plan (Bool.eq_false_iff.2 starts)

end Segment

end Trampoline
