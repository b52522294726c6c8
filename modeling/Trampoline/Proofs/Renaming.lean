import Trampoline.Proofs.Standing

/-!
Tokens by other names.

The tokens that a run meets are renamed wherever it keeps them: in frames that give one back, in
what it calls and is answered, and where it stands.  A loop compares tokens and does nothing else
with them, so a renaming that keeps different tokens apart takes every step to a step.
-/

namespace Trampoline

variable {Memory : Type} (naming : Token → Token)

def Frame.rename : Frame Memory → Frame Memory
  | .restore old back => .restore (naming old) back
  | frame => frame

def Stack.rename (stack : Stack (Frame Memory)) : Stack (Frame Memory) :=
  ⟨stack.top.map (Frame.rename naming), stack.overflow.map (Frame.rename naming)⟩

/-- Only the frames of a stepped plan hold tokens; the code in a plan is left alone. -/
def Plan.rename : Plan Memory → Plan Memory
  | .bind source next => .bind source.rename next
  | .map source change => .map source.rename change
  | .handle source handler => .handle source.rename handler
  | .redeem source onFailure onValue => .redeem source.rename onFailure onValue
  | .switch source modify restore => .switch source.rename modify restore
  | .continueOn source context => .continueOn source.rename context
  | .async (.hopping source context) => .async (.hopping source.rename context)
  | .async (.finishing head pending) => .async (.finishing head.rename (pending.rename naming))
  | .async (.calling register) => .async (.calling register)
  | .pure value => .pure value
  | .raise failure => .raise failure
  | .suspendWith thunk onPanic => .suspendWith thunk onPanic
  | .delayWith thunk onPanic => .delayWith thunk onPanic
  | .held kept => .held kept

def Registration.rename : Registration Memory → Registration Memory
  | .hopping source context => .hopping (source.rename naming) context
  | .finishing head pending => .finishing (head.rename naming) (pending.rename naming)
  | .calling register => .calling register

def Answer.rename {form : Form} : Answer Memory form → Answer Memory form
  | .plan source => .plan (source.rename naming)
  | .token other => .token (naming other)
  | answer => answer

def Call.rename : Call Memory → Call Memory
  | .switching modify token => .switching modify (naming token)
  | .restoring back result old current => .restoring back result (naming old) (naming current)
  | call => call

def Site.rename : Site Memory → Site Memory
  | .switching source restore => .switching (source.rename naming) restore
  | site => site

def Happening.rename : Happening Memory → Happening Memory
  | .started plan pending token receiver =>
      .started (plan.rename naming) (pending.rename naming) (naming token) receiver
  | .looked token canceled => .looked (naming token) canceled
  | .called call token => .called (call.rename naming) (naming token)
  | .answered answer => .answered (answer.rename naming)
  | .recalled kept plan => .recalled kept (plan.rename naming)
  | .reached epoch registration token pending =>
      .reached epoch (registration.rename naming) (naming token) (pending.rename naming)
  | happening => happening

def Standing.rename : Standing Memory → Standing Memory
  | .iterating plan pending token =>
      .iterating (plan.rename naming) (pending.map (Frame.rename naming)) (naming token)
  | .feeding result pending token =>
      .feeding result (pending.map (Frame.rename naming)) (naming token)
  | .calling site pending token =>
      .calling (site.rename naming) (pending.map (Frame.rename naming)) (naming token)
  | .suspended epoch pending token =>
      .suspended epoch (pending.map (Frame.rename naming)) (naming token)
  | standing => standing

variable {naming}

@[simp]
theorem Stack.toList_rename (stack : Stack (Frame Memory)) :
    (stack.rename naming).toList = stack.toList.map (Frame.rename naming) := by
  rcases stack with ⟨_ | top, overflow⟩ <;> simp [rename, toList]

@[simp]
theorem Plan.rename_ofResult (result : Result) :
    (Plan.ofResult result : Plan Memory).rename naming = .ofResult result := by
  cases result <;> rfl

theorem Plan.rename_async (registration : Registration Memory) :
    (Plan.async registration).rename naming = .async (registration.rename naming) := by
  cases registration <;> rfl

theorem Plan.frame?_rename {plan source : Plan Memory} {frame : Frame Memory}
    (sequencing : plan.frame? = some (frame, source)) :
    (plan.rename naming).frame? = some (frame.rename naming, source.rename naming) := by
  cases plan <;> cases sequencing <;> rfl

theorem Frame.call?_rename (naming : Token → Token) (frame : Frame Memory) (result : Result)
    (token : Token) :
    (frame.rename naming).call? result (naming token) =
      (frame.call? result token).map (Call.rename naming) := by
  cases frame <;> cases result <;> rfl

theorem Frame.site_rename (frame : Frame Memory) (result : Result) :
    (frame.rename naming).site result = (frame.site result).rename naming := by
  cases frame <;> rfl

@[simp]
theorem Site.raises_rename (site : Site Memory) : (site.rename naming).raises = site.raises := by
  cases site <;> rfl

namespace Standing

variable {standing next goal : Standing Memory} {happenings : List (Happening Memory)} {count : Nat}

@[simp]
theorem rename_after (outcome : Outcome Value) (pending : List (Frame Memory)) (token : Token) :
    (after outcome pending token).rename naming =
      after outcome (pending.map (Frame.rename naming)) (naming token) := by
  cases outcome <;> rfl

/-- A run that meets other tokens goes on alike, if different tokens stay different. -/
theorem Step.rename (injective : Function.Injective naming) (step : Step standing happenings next) :
    Step (standing.rename naming) (happenings.map (Happening.rename naming))
      (next.rename naming) := by
  cases step with
  | @reach registration token epoch pending =>
      simp only [Standing.rename, Plan.rename_async, ← Stack.toList_rename]
      exact .reach
  | descend sequencing => exact .descend (Plan.frame?_rename sequencing)
  | @skip frame result _ token refused =>
      have refused' := frame.call?_rename naming result token
      rw [refused] at refused'
      exact .skip refused'
  | @meet frame result _ token _ taken =>
      have taken' := frame.call?_rename naming result token
      rw [taken] at taken'
      simp only [Standing.rename, ← frame.site_rename]
      exact .meet taken'
  | otherToken different => exact .otherToken (injective.ne different)
  | scopedToken different => exact .scopedToken (injective.ne different)
  | restoreAnswer =>
      simp only [Standing.rename, Plan.rename_ofResult]
      exact .restoreAnswer
  | @panic site _ _ _ raises => exact .panic (site.raises_rename.trans raises)
  | cross =>
      rw [rename_after]
      exact .cross
  | stop => exact .stop
  | pure => exact .pure
  | raise => exact .raise
  | suspend => exact .suspend
  | delay => exact .delay
  | hop => exact .hop
  | «switch» => exact .switch
  | lookUp => exact .lookUp
  | conclude => exact .conclude
  | suspendAnswer => exact .suspendAnswer
  | delayAnswer => exact .delayAnswer
  | nameSuspendedAnswer => exact .nameSuspendedAnswer
  | nameDelayedAnswer => exact .nameDelayedAnswer
  | continueAnswer => exact .continueAnswer
  | mapAnswer => exact .mapAnswer
  | sameToken => exact .sameToken
  | suspendPanic => exact .suspendPanic
  | delayPanic => exact .delayPanic
  | nameDelayedPanic => exact .nameDelayedPanic
  | tell => exact .tell

theorem Path.rename (injective : Function.Injective naming)
    (path : Path count standing happenings goal) :
    Path count (standing.rename naming) (happenings.map (Happening.rename naming))
      (goal.rename naming) := by
  induction path with
  | done => exact .done
  | step taken _ inductionHypothesis =>
      rw [List.map_append]
      exact .step (taken.rename injective) inductionHypothesis

end Standing

end Trampoline
