import Trampoline.Proofs.Capturing
import Trampoline.Proofs.Shelter
import Trampoline.Proofs.Stepping

/-!
What happens above a caller until it gets its answer.

A worker that has called something stays above its callers, whatever the others do, up to the return
of what it called or up to a panic there.  What starts, steps or resumes a run only ever returns: no
panic unwinds out of a run, out of stepping or out of a completion.
-/

namespace Trampoline

variable {Memory : Type} {last middle form rest : Form}

def Focus.isLeaving : Focus Memory middle → Bool
  | .unwind _ .bottom => true
  | _ => false

/-- What has become of code above callers, as a schedule goes: it still goes on, or it has returned to
them, or a panic has come to them, if it may. -/
inductive Chronicle.Encloses (chronicle : Chronicle Memory) (position : Nat)
    (below : Callers Memory last middle) (mayPanic : Bool) (schedule : List Nat) : Prop where
  | inside {focus : Focus Memory middle} {thread} (going : focus.isGoing = true)
      (here : (chronicle.after schedule).pool.workers[position]? =
        some ⟨focus.above below, thread⟩)
      (calm : mayPanic = false → focus.isLeaving = false)
  | returned (before rest : List Nat) {answer thread}
      (split : schedule = before ++ position :: rest)
      (here : (chronicle.after before).pool.workers[position]? =
        some ⟨.code (.done answer) below, thread⟩)
  | panicked (before rest : List Nat) {payload thread}
      (split : schedule = before ++ position :: rest)
      (here : (chronicle.after before).pool.workers[position]? =
        some ⟨.unwind payload below, thread⟩)
      (mayPanic : mayPanic = true)

/-- What has become of code above callers of which something holds: it holds on, up to an answer for
these callers or a panic. -/
inductive Chronicle.Surrounds (chronicle : Chronicle Memory) (position : Nat)
    (below : Callers Memory last middle) (inside : Focus Memory middle → Thread → Prop)
    (schedule : List Nat) : Prop where
  | going {focus thread} (holds : inside focus thread) (going : focus.isGoing = true)
      (here : (chronicle.after schedule).pool.workers[position]? =
        some ⟨focus.above below, thread⟩)
  | left (before rest : List Nat) {focus thread} (holds : inside focus thread)
      (leaves : (∃ answer, focus = .code (.done answer) .bottom) ∨
        ∃ payload, focus = .unwind payload .bottom)
      (split : schedule = before ++ position :: rest)
      (here : (chronicle.after before).pool.workers[position]? =
        some ⟨focus.above below, thread⟩)

namespace Chronicle

variable {chronicle : Chronicle Memory} {position : Nat} {below : Callers Memory last middle}
  {mayPanic : Bool} {thread : Thread}

theorem Surrounds.later {inside : Focus Memory middle → Thread → Prop} {schedule : List Nat}
    (other : Nat) (surrounds : (chronicle.move other).Surrounds position below inside schedule) :
    chronicle.Surrounds position below inside (other :: schedule) := by
  cases surrounds with
  | going holds going here => exact .going holds going here
  | left before rest holds leaves split here =>
      exact .left (other :: before) rest holds leaves (congrArg (other :: ·) split) here

theorem surrounds {inside : Focus Memory middle → Thread → Prop}
    (kept : ∀ focus host, inside focus host.thread → focus.isGoing = true →
      (Machine.next ⟨focus, host⟩).focus.isGoing = true →
        inside (Machine.next ⟨focus, host⟩).focus (Machine.next ⟨focus, host⟩).host.thread)
    {focus : Focus Memory middle} (holds : inside focus thread) (going : focus.isGoing = true)
    (found : chronicle.pool.workers[position]? = some ⟨focus.above below, thread⟩)
    (schedule : List Nat) : chronicle.Surrounds position below inside schedule := by
  induction schedule generalizing chronicle focus thread with
  | nil => exact .going holds going found
  | cons other schedule inductionHypothesis =>
      by_cases same : other = position
      · subst same
        by_cases leaves : (∃ answer, focus = .code (.done answer) .bottom) ∨
            ∃ payload, focus = .unwind payload .bottom
        · exact .left [] schedule holds leaves rfl found
        · rw [not_or, not_exists, not_exists] at leaves
          have remains := Machine.isGoing_next { chronicle.pool.host with thread } going leaves.1
            leaves.2
          have next : (Worker.machine ⟨focus.above below, thread⟩ chronicle.pool.host).next =
              (Machine.next ⟨focus, { chronicle.pool.host with thread }⟩).above below :=
            Machine.above_next below { chronicle.pool.host with thread } going
          have moved : (chronicle.move other).pool.workers[other]? = _ :=
            Pool.worker_move_self found
          rw [next, Focus.above_of_going remains] at moved
          exact (inductionHypothesis (kept _ _ holds going remains) remains moved).later other
      · have still : (chronicle.move other).pool.workers[position]? = _ :=
          (Pool.worker_move_of_ne same).trans found
        exact (inductionHypothesis holds going still).later other

/-- Whatever the others do, code goes on above its callers up to its end. -/
theorem encloses {inside : Focus Memory middle → Prop}
    (kept : ∀ focus host, inside focus → focus.isGoing = true →
      (Machine.next ⟨focus, host⟩).focus.isGoing = true →
        inside (Machine.next ⟨focus, host⟩).focus)
    (calm : mayPanic = false → ∀ focus, inside focus → focus.isLeaving = false)
    {focus : Focus Memory middle} (holds : inside focus) (going : focus.isGoing = true)
    (found : chronicle.pool.workers[position]? = some ⟨focus.above below, thread⟩)
    (schedule : List Nat) : chronicle.Encloses position below mayPanic schedule := by
  have surrounded : chronicle.Surrounds position below (fun focus _ => inside focus) schedule :=
    surrounds kept holds going found schedule
  cases surrounded with
  | going holds going here => exact .inside going here fun never => calm never _ holds
  | left before rest holds leaves split here =>
      rcases leaves with ⟨answer, rfl⟩ | ⟨payload, rfl⟩
      · exact .returned before rest split here
      · refine .panicked before rest split here ?_
        cases mayPanic with
        | true => rfl
        | false => cases calm rfl _ holds

end Chronicle

/-! ### Runs, stepping and completions -/

/-- Code that starts, steps or resumes a run, and the caller that waits for that; so many runs have
been started before. -/
inductive Code.Enters (runs : Nat) :
    {form middle : Form} → Code Memory form → Caller Memory middle form → Prop where
  | run {form plan token receive} {next : Unit → Code Memory form} :
      Enters runs (.run plan token receive next) (.code next)
  | runSync {form plan token} {next : Option (Outcome Value) → Code Memory form} :
      Enters runs (.runSync plan token next) (.waiting runs next)
  | step {form plan} {next : Nat → Code Memory form} :
      Enters runs (.step plan next) (.stepping next)
  | complete {form completer result} {next : Unit → Code Memory form} :
      Enters runs (.complete completer result next) (.code next)

/-- A caller through which no panic may unwind. -/
def Callers.exposed : Callers Memory .unit .unit :=
  .push (.detaching 0 0 .uncancelable) .bottom

theorem Callers.sheltered_exposed : (exposed : Callers Memory .unit .unit).Sheltered fun _ => false :=
  ⟨fun isCode => Bool.noConfusion isCode, trivial⟩

def Focus.IsTight (focus : Focus Memory .unit) : Prop :=
  (focus.above Callers.exposed).Sheltered fun _ => false

theorem Focus.IsTight.next {focus : Focus Memory .unit} {host : Host Memory}
    (tight : focus.IsTight) (going : focus.isGoing = true)
    (remains : (Machine.next ⟨focus, host⟩).focus.isGoing = true) :
    (Machine.next ⟨focus, host⟩).focus.IsTight := by
  have sheltered :=
    Machine.sheltered_next ⟨focus.above Callers.exposed, host⟩ (Focus.spares_none _ _) tight
  rwa [Machine.above_next _ _ going, above_of_going remains] at sheltered

theorem Focus.IsTight.isLeaving_eq {focus : Focus Memory .unit} (tight : focus.IsTight) :
    focus.isLeaving = false := by
  cases focus with
  | unwind payload callers =>
      cases callers with
      | bottom => cases tight.2
      | push => rfl
  | _ => rfl

theorem Focus.Stands.isLeaving_eq {token : Token} {focus : Focus Memory .plan}
    {standing : Standing Memory} (stands : focus.Stands token standing) :
    focus.isLeaving = false := by
  cases stands with
  | @calling form site pending caller focus lasting serves going =>
      cases focus with
      | unwind payload callers => cases callers <;> rfl
      | halted => cases going
      | _ => rfl
  | _ => rfl

namespace Chronicle

variable {chronicle : Chronicle Memory} {position : Nat} {thread : Thread}
  {code : Code Memory form} {caller : Caller Memory middle form} {callers : Callers Memory last form}

/-- Code that was called returns to whoever called it, or panics there. -/
theorem encloses_called
    (found : chronicle.pool.workers[position]? = some ⟨.code code callers, thread⟩)
    (schedule : List Nat) : chronicle.Encloses position callers true schedule := by
  let inside (_ : Focus Memory form) : Prop := True
  have kept : ∀ focus host, inside focus → focus.isGoing = true →
      (Machine.next ⟨focus, host⟩).focus.isGoing = true →
        inside (Machine.next ⟨focus, host⟩).focus := fun _ _ _ _ _ => trivial
  have above : chronicle.pool.workers[position]? =
      some ⟨(Focus.code code .bottom).above callers, thread⟩ := found
  exact encloses kept (fun never => Bool.noConfusion never) trivial rfl above schedule

theorem encloses_tight {focus : Focus Memory .unit} {below : Callers Memory last .unit}
    (tight : focus.IsTight) (going : focus.isGoing = true)
    (found : chronicle.pool.workers[position]? = some ⟨focus.above below, thread⟩)
    (schedule : List Nat) : chronicle.Encloses position below false schedule :=
  encloses (fun _ _ tight => tight.next) (fun _ _ tight => tight.isLeaving_eq) tight going found
    schedule

theorem encloses_stepping {plan : Plan Memory} {below : Callers Memory last .plan}
    (found : chronicle.pool.workers[position]? = some ⟨plan.stepping.above below, thread⟩)
    (schedule : List Nat) : chronicle.Encloses position below false schedule := by
  let inside (focus : Focus Memory .plan) : Prop := ∃ standing, focus.Stands .uncancelable standing
  have kept : ∀ focus host, inside focus → focus.isGoing = true →
      (Machine.next ⟨focus, host⟩).focus.isGoing = true →
        inside (Machine.next ⟨focus, host⟩).focus := by
    rintro focus host ⟨standing, stands⟩ - -
    obtain ⟨next, _, stands'⟩ := stands.goes host
    exact ⟨next, stands'⟩
  have calm : false = false → ∀ focus, inside focus → focus.isLeaving = false :=
    fun _ _ ⟨_, stands⟩ => stands.isLeaving_eq
  have begins : inside plan.stepping := ⟨_, .iterating (by simp [Stack.toList])⟩
  exact encloses kept calm begins rfl found schedule

/-- No panic unwinds out of a run, out of stepping or out of a completion. -/
theorem encloses_entered (enters : code.Enters chronicle.pool.host.runs.size caller)
    (found : chronicle.pool.workers[position]? = some ⟨.code code callers, thread⟩)
    (schedule : List Nat) :
    (chronicle.move position).Encloses position (.push caller callers) false schedule := by
  have moved : (chronicle.move position).pool.workers[position]? = _ :=
    Pool.worker_move_self found
  cases enters with
  | @run plan token receive next =>
      have tight : Focus.IsTight (.iterate
          { purpose := .run chronicle.pool.host.runs.size, token } plan .bottom) :=
        Callers.sheltered_exposed
      exact encloses_tight tight rfl moved schedule
  | @runSync plan token next =>
      have tight : Focus.IsTight (.iterate
          { purpose := .run chronicle.pool.host.runs.size, token } plan .bottom) :=
        Callers.sheltered_exposed
      exact encloses_tight tight rfl moved schedule
  | step => exact encloses_stepping moved schedule
  | @complete completer result next =>
      have tight : Focus.IsTight
          (.complete completer (.ofResult result) .bottom : Focus Memory .unit) :=
        ⟨Callers.sheltered_exposed, fun _ => rfl⟩
      exact encloses_tight tight rfl moved schedule

end Chronicle

end Trampoline
