import Trampoline.Machine.Next

/-!
Machines above other callers.

What a machine does depends on the innermost callers only.  So a machine does the same above other
callers, until it ends: there its answer, or its panic, goes to them.
-/

namespace Trampoline

variable {Memory : Type} {last middle form rest : Form}

def Focus.isGoing : Focus Memory last → Bool
  | .halted _ => false
  | _ => true

def Callers.above : {form : Form} → Callers Memory middle form → Callers Memory last middle →
    Callers Memory last form
  | _, .bottom, below => below
  | _, .push caller callers, below => .push caller (callers.above below)

/-- What a machine does next, above other callers. -/
def Focus.above (focus : Focus Memory middle) (below : Callers Memory last middle) :
    Focus Memory last :=
  match focus with
  | .code body callers => .code body (callers.above below)
  | .iterate loop current callers => .iterate loop current (callers.above below)
  | .feed loop result callers => .feed loop result (callers.above below)
  | .finish run outcome callers => .finish run outcome (callers.above below)
  | .complete completer outcome callers => .complete completer outcome (callers.above below)
  | .unwind payload callers => .unwind payload (callers.above below)
  | .halted (.ok answer) => .code (.done answer) below
  | .halted (.error payload) => .unwind payload below

/-- A machine above other callers; where it has ended they are told so. -/
def Machine.above (machine : Machine Memory middle) (below : Callers Memory last middle) :
    Machine Memory last :=
  match machine.focus with
  | .halted (.ok answer) => below.answer answer machine.host
  | .halted (.error payload) => below.unwind payload machine.host
  | focus => ⟨focus.above below, machine.host⟩

theorem Focus.above_of_going {machine : Machine Memory middle} (going : machine.focus.isGoing = true)
    (below : Callers Memory last middle) :
    machine.above below = ⟨machine.focus.above below, machine.host⟩ := by
  obtain ⟨focus, host⟩ := machine
  cases focus with
  | halted => cases going
  | _ => rfl

section Above

variable (below : Callers Memory last middle) (host : Host Memory)

namespace Machine

theorem above_perform (task : Task Memory) (callers : Callers Memory middle .unit) :
    (perform task callers host).above below = perform task (callers.above below) host := by
  cases task <;> rfl

theorem above_spawn (name : Option String) (caller : Caller Memory form rest)
    {body : Callers Memory middle form → Host Memory → Machine Memory middle}
    {body' : Callers Memory last form → Host Memory → Machine Memory last}
    (bodies : ∀ callers host, (body callers host).above below = body' (callers.above below) host)
    (callers : Callers Memory middle rest) :
    (spawn name caller body callers host).above below =
      spawn name caller body' (callers.above below) host := by
  simp only [spawn]
  split
  · rfl
  · exact bodies _ _

theorem above_execute (context : Context Memory) (task : Task Memory)
    (callers : Callers Memory middle .unit) :
    (execute context task callers host).above below =
      execute context task (callers.above below) host := by
  cases context with
  | immediate => exact above_perform below host task callers
  | spawner =>
      exact above_spawn below _ _ _ (fun callers host => above_perform below host task callers) callers
  | custom => rfl

theorem above_detach (run epoch : Nat) (token : Token) (callers : Callers Memory middle .unit) :
    (detach run epoch token callers host).above below =
      detach run epoch token (callers.above below) host := by
  simp only [detach]
  split
  · rfl
  · rfl
  · split <;> rfl

theorem above_finish (run : Nat) (outcome : Outcome Value) (callers : Callers Memory middle .unit) :
    (finish run outcome callers host).above below =
      finish run outcome (callers.above below) host := by
  simp only [finish]
  split
  · rfl
  · split
    · rfl
    · split <;> rfl

theorem above_complete (completer : Completer) (outcome : Outcome Value)
    (callers : Callers Memory middle .unit) :
    (complete completer outcome callers host).above below =
      complete completer outcome (callers.above below) host := by
  simp only [complete]
  split
  · rfl
  · rfl
  · split <;> rfl

end Machine

namespace Loop

variable (loop : Loop Memory form) (callers : Callers Memory middle form)

theorem above_goUnder (token : Token) (source : Plan Memory)
    (restore : Option (Result → Token → Token → Code Memory .token)) :
    (loop.goUnder token source restore callers host).above below =
      loop.goUnder token source restore (callers.above below) host := by
  simp only [goUnder]
  split
  · rfl
  · cases restore <;> rfl

theorem above_goBackTo (token : Token) (result : Result) :
    (loop.goBackTo token result callers host).above below =
      loop.goBackTo token result (callers.above below) host := by
  simp only [goBackTo]
  split <;> rfl

theorem above_stop {pending : Stack (Frame Memory)} (head : Plan Memory)
    (callers : Callers Memory middle .plan) :
    (stop pending head callers host).above below = stop pending head (callers.above below) host := by
  simp only [stop]
  split <;> rfl

end Loop

theorem Registration.above_call (registration : Registration Memory) (token : Token)
    (completer : Completer) (callers : Callers Memory middle .unit) :
    (registration.call token completer callers host).above below =
      registration.call token completer (callers.above below) host := by
  cases registration with
  | calling | finishing => rfl
  | hopping => exact Machine.above_execute below _ _ _ callers

namespace Loop

variable (loop : Loop Memory form) (callers : Callers Memory middle form)

theorem above_suspend (registration : Registration Memory) :
    (loop.suspend registration callers host).above below =
      loop.suspend registration (callers.above below) host := by
  obtain ⟨purpose, pending, token⟩ := loop
  cases purpose with
  | run run => exact Registration.above_call below _ registration _ _ _
  | step => exact above_stop below host _ callers

theorem above_switch (source : Plan Memory) (modify : Token → Code Memory .token)
    (restore : Option (Result → Token → Token → Code Memory .token)) :
    (loop.switch source modify restore callers host).above below =
      loop.switch source modify restore (callers.above below) host := by
  obtain ⟨purpose, pending, token⟩ := loop
  cases purpose with
  | run run => rfl
  | step => exact above_stop below host _ callers

theorem above_advance (current : Plan Memory) :
    (loop.advance current callers host).above below =
      loop.advance current (callers.above below) host := by
  cases current with
  | async registration => exact above_suspend below host loop callers registration
  | switch source modify restore => exact above_switch below host loop callers source modify restore
  | _ => rfl

theorem above_iterate (current : Plan Memory) :
    (loop.iterate current callers host).above below =
      loop.iterate current (callers.above below) host := by
  obtain ⟨purpose, pending, token⟩ := loop
  cases purpose with
  | run run =>
      simp only [iterate]
      split
      · rfl
      · exact above_advance below host _ callers current
  | step => exact above_advance below host _ callers current

theorem above_meet (frame : Frame Memory) (result : Result) :
    (loop.meet frame result callers host).above below =
      loop.meet frame result (callers.above below) host := by
  cases frame <;> cases result <;> rfl

theorem above_feed (result : Result) :
    (loop.feed result callers host).above below = loop.feed result (callers.above below) host := by
  obtain ⟨purpose, pending, token⟩ := loop
  simp only [feed]
  split
  · cases purpose <;> rfl
  · exact above_meet below host _ callers _ result

end Loop

namespace Callers

theorem above_answer (callers : Callers Memory middle form) (answer : Answer Memory form) :
    (callers.answer answer host).above below = (callers.above below).answer answer host := by
  cases callers with
  | bottom => rfl
  | push caller callers =>
      cases caller with
      | switching loop source restore =>
          cases answer
          exact loop.above_goUnder below _ callers _ source restore
      | restoring loop result =>
          cases answer
          exact loop.above_goBackTo below _ callers _ result
      | registering | detaching =>
          cases answer
          exact Machine.above_detach below _ _ _ _ callers
      | _ => cases answer; rfl

theorem above_unwind (callers : Callers Memory middle form) (payload : Payload) :
    (callers.unwind payload host).above below = (callers.above below).unwind payload host := by
  cases callers with
  | bottom => rfl
  | push caller callers => cases caller <;> rfl

end Callers

theorem Machine.above_evaluate (code : Code Memory form) (callers : Callers Memory middle form) :
    (evaluate code callers host).above below = evaluate code (callers.above below) host := by
  cases code with
  | done answer => exact Callers.above_answer below host callers answer
  | onThread name body next =>
      simp only [evaluate]
      exact above_spawn below host name _ (fun _ _ => rfl) callers
  | execute context task next => exact above_execute below host context _ _
  | runTask task next =>
      simp only [evaluate]
      split
      · rfl
      · exact above_perform below _ _ _
  | _ => rfl

/-- Unless it has ended, a machine does the same above other callers. -/
theorem Machine.above_next {focus : Focus Memory middle} (going : focus.isGoing = true) :
    next ⟨focus.above below, host⟩ = (next ⟨focus, host⟩).above below := by
  cases focus with
  | code code callers => exact (above_evaluate below host code callers).symm
  | iterate loop current callers => exact (loop.above_iterate below host callers current).symm
  | feed loop result callers => exact (loop.above_feed below host callers result).symm
  | finish run outcome callers => exact (above_finish below host run outcome callers).symm
  | complete completer outcome callers =>
      exact (above_complete below host completer outcome callers).symm
  | unwind payload callers => exact (Callers.above_unwind below host callers payload).symm
  | halted ending => cases going

end Above

section Going

variable (host : Host Memory)

namespace Machine

theorem isGoing_perform (task : Task Memory) (callers : Callers Memory last .unit) :
    (perform task callers host).focus.isGoing = true := by
  cases task <;> rfl

theorem isGoing_spawn (name : Option String) (caller : Caller Memory form rest)
    {body : Callers Memory last form → Host Memory → Machine Memory last}
    (bodies : ∀ callers host, (body callers host).focus.isGoing = true)
    (callers : Callers Memory last rest) :
    (spawn name caller body callers host).focus.isGoing = true := by
  simp only [spawn]
  split
  · rfl
  · exact bodies _ _

theorem isGoing_execute (context : Context Memory) (task : Task Memory)
    (callers : Callers Memory last .unit) :
    (execute context task callers host).focus.isGoing = true := by
  cases context with
  | immediate => exact isGoing_perform host task callers
  | spawner =>
      exact isGoing_spawn _ _ _ (fun callers host => isGoing_perform host task callers) callers
  | custom => rfl

theorem isGoing_detach (run epoch : Nat) (token : Token) (callers : Callers Memory last .unit) :
    (detach run epoch token callers host).focus.isGoing = true := by
  simp only [detach]
  split
  · rfl
  · rfl
  · split <;> rfl

end Machine

namespace Loop

variable (loop : Loop Memory form) (callers : Callers Memory last form)

theorem isGoing_goUnder (token : Token) (source : Plan Memory)
    (restore : Option (Result → Token → Token → Code Memory .token)) :
    (loop.goUnder token source restore callers host).focus.isGoing = true := by
  simp only [goUnder]
  split
  · rfl
  · cases restore <;> rfl

theorem isGoing_goBackTo (token : Token) (result : Result) :
    (loop.goBackTo token result callers host).focus.isGoing = true := by
  simp only [goBackTo]
  split <;> rfl

theorem isGoing_iterate (current : Plan Memory) :
    (loop.iterate current callers host).focus.isGoing = true := by
  obtain ⟨purpose, pending, token⟩ := loop
  cases purpose with
  | run run =>
      simp only [iterate]
      split
      · rfl
      · cases current with
        | async registration =>
            cases registration with
            | calling | finishing => rfl
            | hopping => exact Machine.isGoing_execute _ _ _ _
        | _ => rfl
  | step =>
      cases current with
      | async | switch =>
          simp only [iterate, advance, suspend, switch, stop]
          split <;> rfl
      | _ => rfl

theorem isGoing_feed (result : Result) :
    (loop.feed result callers host).focus.isGoing = true := by
  obtain ⟨purpose, pending, token⟩ := loop
  simp only [feed]
  split
  · cases purpose <;> rfl
  · rename_i frame below _
    cases frame <;> cases result <;> rfl

end Loop

theorem Caller.isGoing_answer (caller : Caller Memory form rest) (answer : Answer Memory form)
    (callers : Callers Memory last rest) :
    (caller.answer answer callers host).focus.isGoing = true := by
  cases caller with
  | switching loop source restore =>
      cases answer
      exact loop.isGoing_goUnder _ callers _ source restore
  | restoring loop result =>
      cases answer
      exact loop.isGoing_goBackTo _ callers _ result
  | registering | detaching =>
      cases answer
      exact Machine.isGoing_detach _ _ _ _ callers
  | _ => cases answer; rfl

/-- A machine ends only with an answer, or with a panic, that nobody waits for. -/
theorem Machine.isGoing_next {focus : Focus Memory last} (going : focus.isGoing = true)
    (answers : ∀ answer, focus ≠ .code (.done answer) .bottom)
    (panics : ∀ payload, focus ≠ .unwind payload .bottom) :
    (next ⟨focus, host⟩).focus.isGoing = true := by
  cases focus with
  | code code callers =>
      cases code with
      | done answer =>
          cases callers with
          | bottom => exact absurd rfl (answers answer)
          | push caller callers => exact caller.isGoing_answer host answer callers
      | onThread name =>
          simp only [next, evaluate]
          exact isGoing_spawn host name _ (fun _ _ => rfl) callers
      | execute context => exact isGoing_execute host context _ _
      | runTask task =>
          simp only [next, evaluate]
          split
          · rfl
          · exact isGoing_perform _ _ _
      | _ => rfl
  | iterate loop current callers => exact loop.isGoing_iterate host callers current
  | feed loop result callers => exact loop.isGoing_feed host callers result
  | finish run outcome callers =>
      simp only [next, finish]
      split
      · rfl
      · split
        · rfl
        · split <;> rfl
  | complete completer outcome callers =>
      simp only [next, complete]
      split
      · rfl
      · rfl
      · split <;> rfl
  | unwind payload callers =>
      cases callers with
      | bottom => exact absurd rfl (panics payload)
      | push caller callers => cases caller <;> rfl
  | halted ending => cases going

end Going

end Trampoline
