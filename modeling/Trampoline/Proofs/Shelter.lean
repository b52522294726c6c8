import Trampoline.Proofs.Happening
import Trampoline.Proofs.Move.Upshot

/-!
Panics stop at guards.

Above a loop whose registration has panicked no code runs that is not under a guard of its own, so
no panic ever unwinds through such a loop and every registration is seen to return.  This is a
property of the callers alone, kept by every move.  Boundaries may be spared besides, whose
registrations do nothing but start a run: these registrations do not panic.
-/

namespace Trampoline

variable {Memory : Type} {last : Form}

def Caller.isCode {form rest : Form} : Caller Memory form rest → Bool
  | .code _ | .waiting _ _ | .stepping _ | .joining _ _ | .guarding _ => true
  | _ => false

def Registration.mayPanic : Registration Memory → Bool
  | .calling _ | .hopping _ _ => true
  | .finishing _ _ => false

section Spared

variable (spared : Completer → Bool)

def Caller.isExposed {form rest : Form} : Caller Memory form rest → Bool
  | .detaching _ _ _ => true
  | .registering run epoch _ => spared ⟨run, epoch⟩
  | _ => false

namespace Callers

def mayPanic {form : Form} : Callers Memory last form → Bool
  | .bottom => true
  | .push caller _ => !caller.isExposed spared

/-- Code goes on only where it may panic. -/
def Sheltered {form : Form} : Callers Memory last form → Prop
  | .bottom => True
  | .push caller callers =>
      (caller.isCode = true → callers.mayPanic spared = true) ∧ callers.Sheltered

end Callers

/-- Code and panics are only where they may be. -/
def Focus.Sheltered : Focus Memory last → Prop
  | .code rest callers =>
      callers.Sheltered spared ∧ (callers.mayPanic spared = true ∨ ∃ answer, rest = .done answer)
  | .unwind _ callers => callers.Sheltered spared ∧ callers.mayPanic spared = true
  | .iterate _ _ callers | .feed _ _ callers | .finish _ _ callers => callers.Sheltered spared
  | .complete completer _ callers =>
      callers.Sheltered spared ∧ (callers.maker = .registration → spared completer = false)
  | .halted _ => True

/-- A boundary that is reached next is spared only if its registration does not panic. -/
def Focus.Spares (host : Host Memory) (focus : Focus Memory last) : Prop :=
  ∀ run pending token registration callers,
    focus = .iterate ⟨.run run, pending, token⟩ (.async registration) callers →
      host.tokens.isCanceled token ≠ true → spared ⟨run, host.epoch run + 1⟩ = true →
        registration.mayPanic = false

theorem Focus.spares_none (host : Host Memory) (focus : Focus Memory last) :
    focus.Spares (fun _ => false) host :=
  fun _ _ _ _ _ _ _ never => Bool.noConfusion never

end Spared

variable {spared : Completer → Bool}

namespace Machine

variable {form rest : Form} {host : Host Memory}

theorem sheltered_finished {callers : Callers Memory last .unit} (sheltered : callers.Sheltered spared) :
    (finished callers host).focus.Sheltered spared :=
  ⟨sheltered, .inr ⟨_, rfl⟩⟩

theorem sheltered_perform {callers : Callers Memory last .unit} (task : Task Memory)
    (sheltered : callers.Sheltered spared) (mayPanic : callers.mayPanic spared = true) :
    (perform task callers host).focus.Sheltered spared := by
  cases task with
  | code body => exact ⟨sheltered, .inl mayPanic⟩
  | run source token completer => exact sheltered

theorem sheltered_spawn {callers : Callers Memory last rest} (name : Option String)
    (caller : Caller Memory form rest)
    (body : Callers Memory last form → Host Memory → Machine Memory last)
    (sheltered : callers.Sheltered spared) (mayPanic : callers.mayPanic spared = true)
    (inner : ∀ host, (body (.push caller callers) host).focus.Sheltered spared) :
    (spawn name caller body callers host).focus.Sheltered spared := by
  unfold spawn
  split
  · exact ⟨sheltered, .inl mayPanic⟩
  · exact inner _

theorem sheltered_execute {callers : Callers Memory last .unit} (context : Context Memory)
    (task : Task Memory) (sheltered : callers.Sheltered spared)
    (mayPanic : callers.mayPanic spared = true) :
    (execute context task callers host).focus.Sheltered spared := by
  cases context with
  | immediate => exact sheltered_perform task sheltered mayPanic
  | spawner spawner label =>
      refine sheltered_spawn _ _ _ sheltered mayPanic fun host => ?_
      exact sheltered_perform task ⟨fun isCode => Bool.noConfusion isCode, sheltered⟩ rfl
  | custom name schedule => exact ⟨sheltered, .inl mayPanic⟩

end Machine

theorem Registration.sheltered_call {host : Host Memory} {callers : Callers Memory last .unit}
    (registration : Registration Memory) (token : Token) (completer : Completer)
    (sheltered : callers.Sheltered spared)
    (mayPanic : registration.mayPanic = true → callers.mayPanic spared = true) :
    (registration.call token completer callers host).focus.Sheltered spared := by
  cases registration with
  | calling register => exact ⟨sheltered, .inl (mayPanic rfl)⟩
  | hopping source context => exact Machine.sheltered_execute context _ sheltered (mayPanic rfl)
  | finishing head pending => exact sheltered

namespace Loop

variable {form : Form} {host : Host Memory} {callers : Callers Memory last form}

theorem sheltered_stop {callers : Callers Memory last .plan} (pending : Stack (Frame Memory))
    (head : Plan Memory) (sheltered : callers.Sheltered spared) :
    (stop pending head callers host).focus.Sheltered spared := by
  unfold stop
  split <;> exact ⟨sheltered, .inr ⟨_, rfl⟩⟩

theorem sheltered_push_guard {rest : Form} {caller : Caller Memory rest form}
    (sheltered : callers.Sheltered spared) (isGuard : caller.isCode = false) :
    (Callers.push caller callers).Sheltered spared :=
  ⟨fun isCode => by rw [isGuard] at isCode; exact Bool.noConfusion isCode, sheltered⟩

theorem sheltered_iterate (loop : Loop Memory form) (plan : Plan Memory)
    (spares : (Focus.iterate loop plan callers).Spares spared host)
    (sheltered : callers.Sheltered spared) :
    (loop.iterate plan callers host).focus.Sheltered spared := by
  obtain ⟨purpose, pending, token⟩ := loop
  cases purpose with
  | run run =>
      simp only [iterate]
      split
      · exact sheltered
      · rename_i live
        cases plan with
        | suspendWith | delayWith | switch =>
            exact ⟨sheltered_push_guard sheltered rfl, .inl rfl⟩
        | async registration =>
            refine registration.sheltered_call _ _ (sheltered_push_guard sheltered rfl) ?_
            intro mayPanic
            have unspared : spared ⟨run, host.epoch run + 1⟩ = false := by
              refine Bool.eq_false_iff.2 fun marked => ?_
              exact Bool.noConfusion (mayPanic.symm.trans (spares _ _ _ _ _ rfl live marked))
            rw [Callers.mayPanic, Caller.isExposed, Host.epoch_arm, unspared]
            rfl
        | _ => exact sheltered
  | step =>
      cases plan with
      | suspendWith | delayWith => exact ⟨sheltered_push_guard sheltered rfl, .inl rfl⟩
      | async | switch => exact sheltered_stop _ _ sheltered
      | _ => exact sheltered

theorem sheltered_feed (loop : Loop Memory form) (result : Result)
    (sheltered : callers.Sheltered spared) :
    (loop.feed result callers host).focus.Sheltered spared := by
  obtain ⟨purpose, pending, token⟩ := loop
  simp only [feed]
  split
  · cases purpose with
    | run => exact sheltered
    | step => exact ⟨sheltered, .inr ⟨_, rfl⟩⟩
  · rename_i frame rest found
    cases frame <;> cases result <;>
      first
        | exact ⟨sheltered_push_guard sheltered rfl, .inl rfl⟩
        | exact sheltered

theorem sheltered_goUnder (loop : Loop Memory form) (token : Token) (source : Plan Memory)
    (restore : Option (Result → Token → Token → Code Memory .token))
    (sheltered : callers.Sheltered spared) :
    (loop.goUnder token source restore callers host).focus.Sheltered spared := by
  unfold goUnder
  split
  · exact sheltered
  · cases restore <;> exact sheltered

theorem sheltered_goBackTo (loop : Loop Memory form) (token : Token) (result : Result)
    (sheltered : callers.Sheltered spared) :
    (loop.goBackTo token result callers host).focus.Sheltered spared := by
  unfold goBackTo
  split <;> exact sheltered

end Loop

namespace Machine

variable {host : Host Memory} {callers : Callers Memory last .unit}

theorem sheltered_goingOn (run : Nat) (outcome : Outcome Value) (pending : Stack (Frame Memory))
    (token : Token) (sheltered : callers.Sheltered spared) :
    (Focus.goingOn run outcome pending token callers).Sheltered spared := by
  cases outcome <;> exact sheltered

theorem Detached.sheltered {run epoch : Nat} {token : Token} {after : Machine Memory last}
    (detached : Detached host run epoch token callers after) (sheltered : callers.Sheltered spared) :
    after.focus.Sheltered spared := by
  cases detached with
  | unbounded | waits | crossed => exact sheltered_finished sheltered
  | takesUp => exact sheltered_goingOn _ _ _ _ sheltered

theorem Completed.sheltered {completer : Completer} {outcome : Outcome Value}
    {after : Machine Memory last} (completed : Completed host completer outcome callers after)
    (sheltered : callers.Sheltered spared) : after.focus.Sheltered spared := by
  cases completed with
  | ignored | parked => exact sheltered_finished sheltered
  | resumes => exact sheltered_goingOn _ _ _ _ sheltered

theorem Ended.sheltered {run : Nat} {outcome : Outcome Value} {after : Machine Memory last}
    (ended : Ended host run outcome callers after) (sheltered : callers.Sheltered spared) :
    after.focus.Sheltered spared := by
  have inner : (Callers.push .telling callers).Sheltered spared :=
    Loop.sheltered_push_guard sheltered rfl
  cases ended with
  | unknown | told => exact sheltered_finished sheltered
  | calls => exact ⟨inner, .inl rfl⟩
  | forwards => exact ⟨inner, fun byRegistration => Maker.noConfusion byRegistration⟩
  | drops => exact sheltered_finished inner

theorem sheltered_answer {form : Form} (callers : Callers Memory last form)
    (answer : Answer Memory form) (sheltered : callers.Sheltered spared) :
    (callers.answer answer host).focus.Sheltered spared := by
  cases callers with
  | bottom => trivial
  | push caller callers =>
      obtain ⟨mayPanic, sheltered⟩ := sheltered
      cases caller with
      | code | waiting | stepping | joining | guarding =>
          cases answer; exact ⟨sheltered, .inl (mayPanic rfl)⟩
      | spawning | telling => cases answer; exact sheltered_finished sheltered
      | suspended | delayed | namingSuspended | namingDelayed | continuing | mapping =>
          cases answer; exact sheltered
      | switching loop source restore =>
          cases answer; exact loop.sheltered_goUnder _ source restore sheltered
      | restoring loop result => cases answer; exact loop.sheltered_goBackTo _ result sheltered
      | registering run epoch token | detaching run epoch token =>
          cases answer; exact (detached ..).sheltered sheltered

theorem sheltered_unwind {form : Form} (callers : Callers Memory last form) (payload : Payload)
    (sheltered : callers.Sheltered spared) (guarded : callers.mayPanic spared = true) :
    (callers.unwind payload host).focus.Sheltered spared := by
  cases callers with
  | bottom => trivial
  | push caller callers =>
      obtain ⟨mayPanic, sheltered⟩ := sheltered
      cases caller with
      | code | waiting | stepping => exact ⟨sheltered, mayPanic rfl⟩
      | joining | guarding => exact ⟨sheltered, .inl (mayPanic rfl)⟩
      | spawning | telling => exact sheltered_finished sheltered
      | suspended | delayed => exact ⟨Loop.sheltered_push_guard sheltered rfl, .inl rfl⟩
      | namingSuspended | namingDelayed | continuing | mapping | switching | restoring =>
          exact sheltered
      | registering =>
          exact ⟨Loop.sheltered_push_guard sheltered rfl, fun _ => by simpa [Callers.mayPanic,
            Caller.isExposed] using guarded⟩
      | detaching => exact Bool.noConfusion guarded

theorem sheltered_evaluate {form : Form} (code : Code Memory form)
    (callers : Callers Memory last form) (sheltered : callers.Sheltered spared)
    (here : callers.mayPanic spared = true ∨ ∃ answer, code = .done answer) :
    (evaluate code callers host).focus.Sheltered spared := by
  rcases here with mayPanic | ⟨answer, rfl⟩
  · have above {rest : Form} (caller : Caller Memory rest form) :
        (Callers.push caller callers).Sheltered spared := ⟨fun _ => mayPanic, sheltered⟩
    cases code with
    | done answer => exact sheltered_answer callers answer sheltered
    | ask request next => exact ⟨sheltered, .inl mayPanic⟩
    | panic payload silent => exact ⟨sheltered, mayPanic⟩
    | guard body next => exact ⟨above _, .inl rfl⟩
    | onThread name body next =>
        exact sheltered_spawn name _ _ sheltered mayPanic fun host => ⟨above _, .inl rfl⟩
    | run | runSync | step => exact above _
    | complete => exact ⟨above _, fun byRegistration => Maker.noConfusion byRegistration⟩
    | execute context task next => exact sheltered_execute context _ (above _) rfl
    | runTask task next =>
        simp only [evaluate]
        split
        · exact ⟨sheltered, .inl mayPanic⟩
        · exact sheltered_perform _ (above _) rfl
  · exact sheltered_answer callers answer sheltered

/-- Every move keeps code and panics where they may be. -/
theorem sheltered_next (machine : Machine Memory last)
    (spares : machine.focus.Spares spared machine.host)
    (sheltered : machine.focus.Sheltered spared) : machine.next.focus.Sheltered spared := by
  obtain ⟨focus, host⟩ := machine
  cases focus with
  | code code callers => exact sheltered_evaluate code callers sheltered.1 sheltered.2
  | iterate loop plan callers => exact loop.sheltered_iterate plan spares sheltered
  | feed loop result callers => exact loop.sheltered_feed result sheltered
  | finish run outcome callers => exact (ended ..).sheltered sheltered
  | complete completer outcome callers => exact (completed ..).sheltered sheltered.1
  | unwind payload callers => exact sheltered_unwind callers payload sheltered.1 sheltered.2
  | halted => trivial

end Machine

end Trampoline
