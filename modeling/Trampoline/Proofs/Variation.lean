import Trampoline.Plan.Combinators
import Trampoline.Proofs.Happening
import Trampoline.Proofs.Lockstep

/-!
Programs that are built in other ways.

A program may be varied by laws: two continuations may be grouped into one, the continuation of a
pure plan may be called by a thunk, and a plan may be wrapped into what only passes its result on.
A plan pushes some frames before it comes to a plan that does something, its head.  What is compared
is the heads of two plans and all frames that are then pending, since both laws of grouping and
laws of wrapping change how many frames there are.
-/

namespace Trampoline

variable {Memory : Type}

namespace Code

def thenBind (code : Code Memory .plan) (next : Value → Code Memory .plan) : Code Memory .plan :=
  code.andThen fun (.plan plan) => Code.plan (.bind plan next)

end Code

def grouped (first next : Value → Code Memory .plan) (value : Value) : Code Memory .plan :=
  (first value).thenBind next

/-- A plan pushes frames, the last one on top, and comes to a head. -/
inductive Plan.Descends : Plan Memory → List (Frame Memory) → Plan Memory → Prop where
  | here {plan} : Descends plan [] plan
  | push {plan source head frame frames} (sequencing : plan.frame? = some (frame, source))
      (descends : Descends source frames head) : Descends plan (frames ++ [frame]) head

/-! ### Neutral functions -/

section Neutral

def answerPure (value : Value) : Code Memory .plan := Code.plan (.pure value)

def answerRaise (failure : Failure) : Code Memory .plan := Code.plan (.raise failure)

def answerSame (value : Value) : Code Memory .value := Code.value value

def answerSameFailure (failure : Failure) : Code Memory .failure := .done (.failure failure)

/-- The plan of a recorded result; a value that records none is its own. -/
def answerRecorded : Value → Code Memory .plan
  | .attempt result => Code.plan (.ofResult result)
  | .datum datum => Code.plan (.pure (.datum datum))

def recordFailure (failure : Failure) : Code Memory .plan :=
  Code.plan (.pure (.attempt (.error failure)))

def recordValue (value : Value) : Code Memory .plan :=
  Code.plan (.pure (.attempt (.ok value)))

/-- A call of one of the functions of the library that do nothing but pass on what they get. -/
inductive Call.IsNeutral : Call Memory → Prop where
  | pure {value} : IsNeutral (.continuing answerPure value)
  | raise {failure} : IsNeutral (.handling answerRaise failure)
  | same {value} : IsNeutral (.mapping answerSame value)
  | recorded {value} : IsNeutral (.continuing answerRecorded value)
  | recordFailure {failure} : IsNeutral (.handling recordFailure failure)
  | recordValue {value} : IsNeutral (.continuing recordValue value)
  | panicked {panic} : IsNeutral (.naming Code.panicked panic)

/-- What a plan can be wrapped into without a difference. -/
inductive Wrapper where
  | bindPure
  | mapSame
  | handleRaise
  | mapSameFailure
  | redeemRaisePure
  | attempt
  deriving DecidableEq, Repr

namespace Wrapper

def wrap (wrapper : Wrapper) (plan : Plan Memory) : Plan Memory :=
  match wrapper with
  | bindPure => .bind plan answerPure
  | mapSame => .map plan answerSame
  | handleRaise => .handle plan answerRaise
  | mapSameFailure => plan.mapFailure answerSameFailure
  | redeemRaisePure => .redeem plan answerRaise answerPure
  | attempt => .bind plan.attempt answerRecorded

def frames (wrapper : Wrapper) : List (Frame Memory) :=
  match wrapper with
  | bindPure => [.bind answerPure]
  | mapSame => [.map answerSame]
  | handleRaise | mapSameFailure => [.handle answerRaise]
  | redeemRaisePure => [.redeem answerRaise answerPure]
  | attempt => [.redeem recordFailure recordValue, .bind answerRecorded]

theorem descends_wrap (wrapper : Wrapper) (plan : Plan Memory) :
    (wrapper.wrap plan).Descends wrapper.frames plan := by
  cases wrapper with
  | attempt => exact .push rfl (.push rfl .here)
  | _ => exact .push rfl .here

theorem frames_ne_nil (wrapper : Wrapper) : (wrapper.frames : List (Frame Memory)) ≠ [] := by
  cases wrapper <;> exact List.cons_ne_nil _ _

end Wrapper

end Neutral

/-! ### Variations -/

inductive Law where
  | grouping
  | starting
  | wrapping
  deriving DecidableEq, Repr

/-- By which laws programs are varied, and which of their functions may stand for each other. -/
structure Variation (Memory : Type) extends Likeness Memory where
  laws : Law → Prop

namespace Variation

variable (variation : Variation Memory)

/-- Frames one by one, except where two are grouped into one or some are added. -/
inductive Stacks : List (Frame Memory) → List (Frame Memory) → Prop where
  | nil : Stacks [] []
  | cons {frame other pending pending'} (frames : variation.Frames frame other)
      (pendings : Stacks pending pending') : Stacks (frame :: pending) (other :: pending')
  | grouped {first first' next next' pending pending'} (law : variation.laws .grouping)
      (firsts : variation.functions (.continuing first) (.continuing first'))
      (nexts : variation.functions (.continuing next) (.continuing next'))
      (pendings : Stacks pending pending') :
      Stacks (.bind first :: .bind next :: pending) (.bind (grouped first' next') :: pending')
  | wrapped {pending pending'} (law : variation.laws .wrapping) (wrapper : Wrapper)
      (pendings : Stacks pending pending') : Stacks pending (wrapper.frames ++ pending')

mutual

/-- Plans that come to heads that are alike, with frames that are. -/
inductive Plans : Plan Memory → Plan Memory → Prop where
  | descend {plan plan' head head' frames frames'} (first : plan.Descends frames head)
      (second : plan'.Descends frames' head') (heads : Heads head frames head' frames') :
      Plans plan plan'

/-- Heads that are alike, and the frames that are pending on them. -/
inductive Heads : Plan Memory → List (Frame Memory) → Plan Memory → List (Frame Memory) →
    Prop where
  | pure {value value' pending pending'} (values : variation.Values value value')
      (pendings : variation.Stacks pending pending') :
      Heads (.pure value) pending (.pure value') pending'
  | raise {failure failure' pending pending'} (failures : variation.Failures failure failure')
      (pendings : variation.Stacks pending pending') :
      Heads (.raise failure) pending (.raise failure') pending'
  | suspendWith {thunk thunk' onPanic onPanic' pending pending'}
      (thunks : variation.functions (.suspending thunk) (.suspending thunk'))
      (functions : variation.functions (.naming onPanic) (.naming onPanic'))
      (pendings : variation.Stacks pending pending') :
      Heads (.suspendWith thunk onPanic) pending (.suspendWith thunk' onPanic') pending'
  | delayWith {thunk thunk' onPanic onPanic' pending pending'}
      (thunks : variation.functions (.delaying thunk) (.delaying thunk'))
      (functions : variation.functions (.naming onPanic) (.naming onPanic'))
      (pendings : variation.Stacks pending pending') :
      Heads (.delayWith thunk onPanic) pending (.delayWith thunk' onPanic') pending'
  | async {registration registration' pending pending'}
      (registrations : Registrations registration registration')
      (pendings : variation.Stacks pending pending') :
      Heads (.async registration) pending (.async registration') pending'
  | continueOn {source source' context context' pending pending'} (sources : Plans source source')
      (pendings : variation.Stacks pending pending') :
      Heads (.continueOn source context) pending (.continueOn source' context') pending'
  | switch {source source' modify modify' restore restore' pending pending'}
      (sources : Plans source source')
      (functions : variation.functions (.switching modify) (.switching modify'))
      (restores : variation.Restores restore restore')
      (pendings : variation.Stacks pending pending') :
      Heads (.switch source modify restore) pending (.switch source' modify' restore') pending'
  | held {kept kept' pending pending'} (pendings : variation.Stacks pending pending') :
      Heads (.held kept) pending (.held kept') pending'
  /-- A continuation that is about to be called, and a thunk that calls it. -/
  | started {value value' next next' pending pending'} (law : variation.laws .starting)
      (values : variation.Values value value')
      (functions : variation.functions (.continuing next) (.continuing next'))
      (pendings : variation.Stacks pending pending') :
      Heads (.pure value) (.bind next :: pending) (.suspend fun _ => next' value') pending'

inductive Registrations : Registration Memory → Registration Memory → Prop where
  | calling {register register'}
      (functions : variation.functions (.registering register) (.registering register')) :
      Registrations (.calling register) (.calling register')
  | hopping {source source' context context'} (sources : Plans source source') :
      Registrations (.hopping source context) (.hopping source' context')
  | finishing {head head' : Plan Memory} {pending pending' : Stack (Frame Memory)}
      (heads : Plans head head') (pendings : variation.Stacks pending.toList pending'.toList) :
      Registrations (.finishing head pending) (.finishing head' pending')

end

inductive Answers : {form : Form} → Answer Memory form → Answer Memory form → Prop where
  | value {value other} (values : variation.Values value other) :
      Answers (.value value) (.value other)
  | plan {plan other} (plans : variation.Plans plan other) : Answers (.plan plan) (.plan other)
  | failure {failure other} (failures : variation.Failures failure other) :
      Answers (.failure failure) (.failure other)
  | token {token} : Answers (.token token) (.token token)

/-- Calls that are alike, and the continuation that has been grouped with the one that the second
program calls. -/
inductive Calls : Call Memory → Call Memory → Option (Value → Code Memory .plan) → Prop where
  | alike {call other} (calls : variation.toLikeness.Calls call other) : Calls call other none
  | grouped {first first' value value'} (law : variation.laws .grouping)
      (firsts : variation.functions (.continuing first) (.continuing first'))
      (values : variation.Values value value')
      (next : Value → Code Memory .plan) :
      Calls (.continuing first value) (.continuing (grouped first' next) value') (some next)
  | started {next next' value value'} (law : variation.laws .starting)
      (functions : variation.functions (.continuing next) (.continuing next'))
      (values : variation.Values value value') :
      Calls (.continuing next value) (.suspended fun _ => next' value') none

/-- What such calls are replied: the second program has to go on with the continuation that has been
grouped. -/
inductive Replies : Option (Value → Code Memory .plan) → Happening Memory → Happening Memory →
    Prop where
  | answered {form : Form} {answer other : Answer Memory form}
      (answers : variation.Answers answer other) : Replies none (.answered answer) (.answered other)
  | grouped {next plan other} (plans : ∀ first, other = .bind first next → variation.Plans plan first) :
      Replies (some next) (.answered (.plan plan)) (.answered (.plan other))
  | panicked {next? panic other} (panics : variation.panics panic other) :
      Replies next? (.panicked panic) (.panicked other)

variable {variation}

theorem Stacks.append {frames frames' pending pending' : List (Frame Memory)}
    (first : variation.Stacks frames frames') (later : variation.Stacks pending pending') :
    variation.Stacks (frames ++ pending) (frames' ++ pending') := by
  induction first with
  | nil => exact later
  | cons frames _ inductionHypothesis => exact .cons frames inductionHypothesis
  | grouped law firsts nexts _ inductionHypothesis =>
      exact .grouped law firsts nexts inductionHypothesis
  | wrapped law wrapper _ inductionHypothesis =>
      rw [List.append_assoc]
      exact .wrapped law wrapper inductionHypothesis

theorem Heads.append {head head' : Plan Memory} {frames frames' pending pending' : List (Frame Memory)}
    (heads : variation.Heads head frames head' frames') (later : variation.Stacks pending pending') :
    variation.Heads head (frames ++ pending) head' (frames' ++ pending') := by
  cases heads with
  | pure values pendings => exact .pure values (pendings.append later)
  | raise failures pendings => exact .raise failures (pendings.append later)
  | suspendWith thunks functions pendings =>
      exact .suspendWith thunks functions (pendings.append later)
  | delayWith thunks functions pendings => exact .delayWith thunks functions (pendings.append later)
  | async registrations pendings => exact .async registrations (pendings.append later)
  | continueOn sources pendings => exact .continueOn sources (pendings.append later)
  | switch sources functions restores pendings =>
      exact .switch sources functions restores (pendings.append later)
  | held pendings => exact .held (pendings.append later)
  | started law values functions pendings =>
      exact .started law values functions (pendings.append later)

namespace Plans

variable {plan plan' source source' : Plan Memory} {frame frame' : Frame Memory}

theorem of_heads (heads : variation.Heads plan [] plan' []) : variation.Plans plan plan' :=
  .descend .here .here heads

theorem sequencing (first : plan.frame? = some (frame, source))
    (second : plan'.frame? = some (frame', source')) (frames : variation.Frames frame frame')
    (sources : variation.Plans source source') : variation.Plans plan plan' := by
  cases sources with
  | descend descends descends' heads =>
      exact .descend (.push first descends) (.push second descends')
        (heads.append (.cons frames .nil))

/-- Two continuations in a row, or both grouped into one. -/
theorem grouped {next next' last last' : Value → Code Memory .plan}
    (law : variation.laws .grouping) (sources : variation.Plans source source')
    (nexts : variation.functions (.continuing next) (.continuing next'))
    (lasts : variation.functions (.continuing last) (.continuing last')) :
    variation.Plans (.bind (.bind source next) last)
      (.bind source' (Trampoline.grouped next' last')) := by
  cases sources with
  | descend descends descends' heads =>
      have first : (Plan.bind (.bind source next) last).Descends _ _ :=
        .push rfl (.push rfl descends)
      rw [List.append_assoc] at first
      exact .descend first (.push rfl descends') (heads.append (.grouped law nexts lasts .nil))

theorem wrapped (law : variation.laws .wrapping) (plans : variation.Plans plan plan')
    (wrapper : Wrapper) : variation.Plans plan (wrapper.wrap plan') := by
  have outer := wrapper.descends_wrap plan'
  cases plans with
  | @descend _ _ head head' frames frames' descends descends' heads =>
      have second : (wrapper.wrap plan').Descends (frames' ++ wrapper.frames) head' := by
        generalize wrapper.wrap plan' = whole at outer
        generalize (wrapper.frames : List (Frame Memory)) = pushed at outer
        induction outer with
        | here => simpa using descends'
        | push sequencing _ inductionHypothesis =>
            rw [← List.append_assoc]
            exact .push sequencing (inductionHypothesis descends')
      have added := heads.append (.wrapped law wrapper .nil)
      rw [List.append_nil, List.append_nil] at added
      exact .descend descends second added

theorem started {value value' : Value} {next next' : Value → Code Memory .plan}
    (law : variation.laws .starting) (values : variation.Values value value')
    (functions : variation.functions (.continuing next) (.continuing next')) :
    variation.Plans (.bind (.pure value) next) (.suspend fun _ => next' value') :=
  .descend (.push rfl .here) .here (.started law values functions .nil)

end Plans

namespace Replies

variable {next? : Option (Value → Code Memory .plan)}

theorem plans {plan other : Plan Memory}
    (replies : variation.Replies none (.answered (.plan plan)) (.answered (.plan other))) :
    variation.Plans plan other := by
  cases replies with
  | answered answers =>
      cases answers with
      | plan plans => exact plans

theorem grouped_plans {plan source : Plan Memory} {next : Value → Code Memory .plan}
    (replies : variation.Replies (some next) (.answered (.plan plan))
      (.answered (.plan (.bind source next)))) : variation.Plans plan source := by
  cases replies with
  | grouped plans => exact plans source rfl

theorem panics {panic other : Panic}
    (replies : variation.Replies next? (.panicked panic) (.panicked other)) :
    variation.panics panic other := by
  cases replies with
  | panicked panics => exact panics

end Replies

theorem Stacks.refl
    (same : ∀ closure, variation.functions closure closure)
    (pending : List (Frame Memory)) : variation.Stacks pending pending := by
  induction pending with
  | nil => exact .nil
  | cons frame pending inductionHypothesis => exact .cons (.refl same frame) inductionHypothesis

theorem Plans.refl
    (same : ∀ closure, variation.functions closure closure) :
    (plan : Plan Memory) → variation.Plans plan plan
  | .pure value => .of_heads (.pure (.refl value) .nil)
  | .raise _ => .of_heads (.raise .same .nil)
  | .suspendWith _ _ => .of_heads (.suspendWith (same _) (same _) .nil)
  | .delayWith _ _ => .of_heads (.delayWith (same _) (same _) .nil)
  | .async (.calling _) => .of_heads (.async (.calling (same _)) .nil)
  | .async (.hopping source _) => .of_heads (.async (.hopping (refl same source)) .nil)
  | .async (.finishing head pending) =>
      .of_heads (.async (.finishing (refl same head) (.refl same pending.toList)) .nil)
  | .bind source _ => .sequencing rfl rfl (.bind (same _)) (refl same source)
  | .map source _ => .sequencing rfl rfl (.map (same _)) (refl same source)
  | .handle source _ => .sequencing rfl rfl (.handle (same _)) (refl same source)
  | .redeem source _ _ =>
      .sequencing rfl rfl (.redeem (same _) (same _)) (refl same source)
  | .continueOn source _ => .of_heads (.continueOn (refl same source) .nil)
  | .switch source _ none => .of_heads (.switch (refl same source) (same _) .none .nil)
  | .switch source _ (some _) =>
      .of_heads (.switch (refl same source) (same _) (.some (same _)) .nil)
  | .held _ => .of_heads (.held .nil)

end Variation

end Trampoline
