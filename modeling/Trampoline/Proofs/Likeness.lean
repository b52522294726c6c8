import Trampoline.Proofs.Dialogue
import Trampoline.Proofs.Standing

/-!
Programs that are alike.

Two programs are alike if they are built the same way from functions that may stand for each other.
Which functions may, and which panics may, is left open: panics that are caught on other threads
differ in the names of the threads, and a function may be replaced by one that gives a plan with
other boundaries.  A boundary may be replaced by the result that it is known to complete with.
-/

namespace Trampoline

variable {Memory : Type}

/-- A function that a plan is made of, with what it is for. -/
inductive Closure (Memory : Type) where
  | suspending (thunk : Unit → Code Memory .plan)
  | delaying (thunk : Unit → Code Memory .value)
  | naming (onPanic : Panic → Code Memory .failure)
  | continuing (next : Value → Code Memory .plan)
  | handling (handler : Failure → Code Memory .plan)
  | mapping (change : Value → Code Memory .value)
  | switching (modify : Token → Code Memory .token)
  | restoring (back : Result → Token → Token → Code Memory .token)
  | registering (register : Token → Completer → Code Memory .unit)

/-- What may stand for what. -/
structure Likeness (Memory : Type) where
  panics : Panic → Panic → Prop
  panics_refl : ∀ panic, panics panic panic
  /-- The functions of a program that may stand for each other. -/
  functions : Closure Memory → Closure Memory → Prop
  /-- The results that boundaries may be replaced by. -/
  replaced : (Token → Completer → Code Memory .unit) → Option Result

namespace Likeness

def same (Memory : Type) : Likeness Memory where
  panics := Eq
  panics_refl _ := rfl
  functions := Eq
  replaced _ := none

variable (likeness : Likeness Memory)

/-- The boundaries that are replaced do not show. -/
def hides : Registration Memory → Bool
  | .calling register => (likeness.replaced register).isSome
  | .hopping _ _ | .finishing _ _ => false

theorem hides_eq_false {likeness : Likeness Memory}
    (kept : ∀ register, likeness.replaced register = none) :
    likeness.hides = fun _ => false := by
  funext registration
  cases registration <;> simp [hides, kept]

inductive Failures : Failure → Failure → Prop where
  | same {failure} : Failures failure failure
  | panicked {panic other} (panics : likeness.panics panic other) :
      Failures (.panicked panic) (.panicked other)

inductive Values : Value → Value → Prop where
  | datum {datum} : Values (.datum datum) (.datum datum)
  | ok {value other} (values : Values value other) :
      Values (.attempt (.ok value)) (.attempt (.ok other))
  | error {failure other} (failures : likeness.Failures failure other) :
      Values (.attempt (.error failure)) (.attempt (.error other))

inductive Results : Result → Result → Prop where
  | ok {value other} (values : likeness.Values value other) : Results (.ok value) (.ok other)
  | error {failure other} (failures : likeness.Failures failure other) :
      Results (.error failure) (.error other)

inductive Outcomes : Outcome Value → Outcome Value → Prop where
  | completed {value other} (values : likeness.Values value other) :
      Outcomes (.completed value) (.completed other)
  | failed {failure other} (failures : likeness.Failures failure other) :
      Outcomes (.failed failure) (.failed other)
  | canceled : Outcomes .canceled .canceled

inductive Frames : Frame Memory → Frame Memory → Prop where
  | bind {next next'} (functions : likeness.functions (.continuing next) (.continuing next')) :
      Frames (.bind next) (.bind next')
  | map {change change'} (functions : likeness.functions (.mapping change) (.mapping change')) :
      Frames (.map change) (.map change')
  | handle {handler handler'}
      (functions : likeness.functions (.handling handler) (.handling handler')) :
      Frames (.handle handler) (.handle handler')
  | redeem {handler handler' next next'}
      (handlers : likeness.functions (.handling handler) (.handling handler'))
      (functions : likeness.functions (.continuing next) (.continuing next')) :
      Frames (.redeem handler next) (.redeem handler' next')
  | restore {old back back'} (functions : likeness.functions (.restoring back) (.restoring back')) :
      Frames (.restore old back) (.restore old back')

inductive Stacks : List (Frame Memory) → List (Frame Memory) → Prop where
  | nil : Stacks [] []
  | cons {frame other pending pending'} (frames : likeness.Frames frame other)
      (pendings : Stacks pending pending') : Stacks (frame :: pending) (other :: pending')

inductive Restores : Option (Result → Token → Token → Code Memory .token) →
    Option (Result → Token → Token → Code Memory .token) → Prop where
  | none : Restores none none
  | some {back back'} (functions : likeness.functions (.restoring back) (.restoring back')) :
      Restores (some back) (some back')

inductive Plans : Plan Memory → Plan Memory → Prop where
  | pure {value other} (values : likeness.Values value other) : Plans (.pure value) (.pure other)
  | raise {failure other} (failures : likeness.Failures failure other) :
      Plans (.raise failure) (.raise other)
  | suspendWith {thunk thunk' onPanic onPanic'}
      (thunks : likeness.functions (.suspending thunk) (.suspending thunk'))
      (functions : likeness.functions (.naming onPanic) (.naming onPanic')) :
      Plans (.suspendWith thunk onPanic) (.suspendWith thunk' onPanic')
  | delayWith {thunk thunk' onPanic onPanic'}
      (thunks : likeness.functions (.delaying thunk) (.delaying thunk'))
      (functions : likeness.functions (.naming onPanic) (.naming onPanic')) :
      Plans (.delayWith thunk onPanic) (.delayWith thunk' onPanic')
  | calling {register register'} (kept : likeness.replaced register = none)
      (functions : likeness.functions (.registering register) (.registering register')) :
      Plans (.async (.calling register)) (.async (.calling register'))
  /-- A boundary and what it completes with. -/
  | replaced {register result} (known : likeness.replaced register = some result) :
      Plans (.async (.calling register)) (.ofResult result)
  | hopping {source source' context context'} (sources : Plans source source') :
      Plans (.async (.hopping source context)) (.async (.hopping source' context'))
  | finishing {head head' : Plan Memory} {pending pending' : Stack (Frame Memory)}
      (heads : Plans head head') (pendings : likeness.Stacks pending.toList pending'.toList) :
      Plans (.async (.finishing head pending)) (.async (.finishing head' pending'))
  | sequencing {plan plan' source source' frame frame'} (first : plan.frame? = some (frame, source))
      (second : plan'.frame? = some (frame', source')) (frames : likeness.Frames frame frame')
      (sources : Plans source source') : Plans plan plan'
  | continueOn {source source' context context'} (sources : Plans source source') :
      Plans (.continueOn source context) (.continueOn source' context')
  | switch {source source' modify modify' restore restore'} (sources : Plans source source')
      (functions : likeness.functions (.switching modify) (.switching modify'))
      (restores : likeness.Restores restore restore') :
      Plans (.switch source modify restore) (.switch source' modify' restore')
  | held {kept other} : Plans (.held kept) (.held other)

inductive Answers : {form : Form} → Answer Memory form → Answer Memory form → Prop where
  | value {value other} (values : likeness.Values value other) :
      Answers (.value value) (.value other)
  | result {result other} (results : likeness.Results result other) :
      Answers (.result result) (.result other)
  | plan {plan other} (plans : likeness.Plans plan other) : Answers (.plan plan) (.plan other)
  | failure {failure other} (failures : likeness.Failures failure other) :
      Answers (.failure failure) (.failure other)
  | token {token} : Answers (.token token) (.token token)
  | unit : Answers .unit .unit

/-- Calls of functions that may stand for each other, with arguments that are alike. -/
inductive Calls : Call Memory → Call Memory → Prop where
  | suspended {thunk thunk'}
      (functions : likeness.functions (.suspending thunk) (.suspending thunk')) :
      Calls (.suspended thunk) (.suspended thunk')
  | delayed {thunk thunk'} (functions : likeness.functions (.delaying thunk) (.delaying thunk')) :
      Calls (.delayed thunk) (.delayed thunk')
  | naming {onPanic onPanic' panic panic'}
      (functions : likeness.functions (.naming onPanic) (.naming onPanic'))
      (panics : likeness.panics panic panic') :
      Calls (.naming onPanic panic) (.naming onPanic' panic')
  | continuing {next next' value value'}
      (functions : likeness.functions (.continuing next) (.continuing next'))
      (values : likeness.Values value value') :
      Calls (.continuing next value) (.continuing next' value')
  | handling {handler handler' failure failure'}
      (functions : likeness.functions (.handling handler) (.handling handler'))
      (failures : likeness.Failures failure failure') :
      Calls (.handling handler failure) (.handling handler' failure')
  | mapping {change change' value value'}
      (functions : likeness.functions (.mapping change) (.mapping change'))
      (values : likeness.Values value value') :
      Calls (.mapping change value) (.mapping change' value')
  | switching {modify modify' token}
      (functions : likeness.functions (.switching modify) (.switching modify')) :
      Calls (.switching modify token) (.switching modify' token)
  | restoring {back back' result result' old current}
      (functions : likeness.functions (.restoring back) (.restoring back'))
      (results : likeness.Results result result') :
      Calls (.restoring back result old current) (.restoring back' result' old current)

inductive Queries : Query Memory → Query Memory → Prop where
  | call {call other token} (calls : likeness.Calls call other) :
      Queries (.call call token) (.call other token)
  | reach {register register' token}
      (functions : likeness.functions (.registering register) (.registering register')) :
      Queries (.reach (.calling register) token) (.reach (.calling register') token)
  | hop {source source' context context' token} (sources : likeness.Plans source source') :
      Queries (.reach (.hopping source context) token) (.reach (.hopping source' context') token)
  | lookUp {kept other} : Queries (.lookUp kept) (.lookUp other)

inductive Replies : Reply Memory → Reply Memory → Prop where
  | answered {form : Form} {answer other : Answer Memory form}
      (answers : likeness.Answers answer other) :
      Replies (.answered answer) (.answered other)
  | panicked {panic other} (panics : likeness.panics panic other) :
      Replies (.panicked panic) (.panicked other)
  | crossed {outcome other} (outcomes : likeness.Outcomes outcome other) :
      Replies (.crossed outcome) (.crossed other)
  | recalled {plan other} (plans : likeness.Plans plan other) :
      Replies (.recalled plan) (.recalled other)

section Refl

variable {likeness}

theorem Values.refl : (value : Value) → likeness.Values value value
  | .datum _ => .datum
  | .attempt (.ok value) => .ok (Values.refl value)
  | .attempt (.error _) => .error .same

theorem Outcomes.refl : (outcome : Outcome Value) → likeness.Outcomes outcome outcome
  | .completed value => .completed (.refl value)
  | .failed _ => .failed .same
  | .canceled => .canceled

theorem Plans.ofResult {result other : Result} (results : likeness.Results result other) :
    likeness.Plans (.ofResult result) (.ofResult other) := by
  cases results with
  | ok values => exact .pure values
  | error failures => exact .raise failures

theorem Frames.refl
    (same : ∀ closure, likeness.functions closure closure)
    (frame : Frame Memory) : likeness.Frames frame frame := by
  cases frame with
  | bind next => exact .bind (same _)
  | map change => exact .map (same _)
  | handle handler => exact .handle (same _)
  | redeem handler next => exact .redeem (same _) (same _)
  | restore old back => exact .restore (same _)

end Refl

namespace Replies

variable {likeness}

theorem panics {panic other : Panic}
    (replies : likeness.Replies (.panicked panic) (.panicked other)) :
    likeness.panics panic other := by
  cases replies with
  | panicked panics => exact panics

theorem outcomes {outcome other : Outcome Value}
    (replies : likeness.Replies (.crossed outcome) (.crossed other)) :
    likeness.Outcomes outcome other := by
  cases replies with
  | crossed outcomes => exact outcomes

theorem recalled_plans {plan other : Plan Memory}
    (replies : likeness.Replies (.recalled plan) (.recalled other)) : likeness.Plans plan other := by
  cases replies with
  | recalled plans => exact plans

end Replies

end Likeness

end Trampoline
