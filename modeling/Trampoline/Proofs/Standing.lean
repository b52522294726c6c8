import Trampoline.Proofs.Happening

/-!
Where a run stands, and how it goes on.

A standing is what is left of a run when threads, guards and the host are forgotten: what its loop
is about to do, the frames that are pending as a list, and the active token.  A run that is at a
boundary is suspended, whether or not its registration has returned; once the boundary is crossed
the run stands at the outcome, even if the loop that takes it up is still registering.  What code
answers, which tokens are canceled and how boundaries are completed comes from outside, as the
happenings that label a step.
-/

namespace Trampoline

variable {Memory : Type}

/-- What a loop does with the answer of the code that it has called. -/
inductive Site (Memory : Type) where
  | suspended (onPanic : Panic → Code Memory .failure)
  | delayed (onPanic : Panic → Code Memory .failure)
  | namingSuspended
  | namingDelayed
  | continuing
  | mapping
  | switching (source : Plan Memory)
      (restore : Option (Result → Token → Token → Code Memory .token))
  | restoring (result : Result)

inductive Standing (Memory : Type) where
  | iterating (plan : Plan Memory) (pending : List (Frame Memory)) (token : Token)
  | feeding (result : Result) (pending : List (Frame Memory)) (token : Token)
  | calling (site : Site Memory) (pending : List (Frame Memory)) (token : Token)
  | suspended (epoch : Nat) (pending : List (Frame Memory)) (token : Token)
  | ending (outcome : Outcome Value)
  | ended (outcome : Outcome Value)

/-- The frame that a sequencing plan pushes, and its source. -/
def Plan.frame? : Plan Memory → Option (Frame Memory × Plan Memory)
  | .bind source next => some (.bind next, source)
  | .map source change => some (.map change, source)
  | .handle source handler => some (.handle handler, source)
  | .redeem source onFailure onValue => some (.redeem onFailure onValue, source)
  | _ => none

def Frame.site (frame : Frame Memory) (result : Result) : Site Memory :=
  match frame with
  | .bind _ | .handle _ | .redeem _ _ => .continuing
  | .map _ => .mapping
  | .restore _ _ => .restoring result

def Site.raises : Site Memory → Bool
  | .namingSuspended | .continuing | .mapping | .switching _ _ | .restoring _ => true
  | .suspended _ | .delayed _ | .namingDelayed => false

namespace Standing

def after (outcome : Outcome Value) (pending : List (Frame Memory)) (token : Token) :
    Standing Memory :=
  match outcome with
  | .completed value => .iterating (.pure value) pending token
  | .failed failure => .iterating (.raise failure) pending token
  | .canceled => .ending .canceled

/-- How a run goes on, with all that happens to it on the way. -/
inductive Step : Standing Memory → List (Happening Memory) → Standing Memory → Prop where
  | stop {plan pending token} :
      Step (.iterating plan pending token) [.looked token true] (.ending .canceled)
  | pure {value pending token} :
      Step (.iterating (.pure value) pending token) [.looked token false]
        (.feeding (.ok value) pending token)
  | raise {failure pending token} :
      Step (.iterating (.raise failure) pending token) [.looked token false]
        (.feeding (.error failure) pending token)
  | suspend {thunk onPanic pending token} :
      Step (.iterating (.suspendWith thunk onPanic) pending token)
        [.looked token false, .called (.suspended thunk) token]
        (.calling (.suspended onPanic) pending token)
  | delay {thunk onPanic pending token} :
      Step (.iterating (.delayWith thunk onPanic) pending token)
        [.looked token false, .called (.delayed thunk) token]
        (.calling (.delayed onPanic) pending token)
  | reach {registration token epoch} {pending : Stack (Frame Memory)} :
      Step (.iterating (.async registration) pending.toList token)
        [.looked token false, .reached epoch registration token pending]
        (.suspended epoch pending.toList token)
  | descend {plan frame source pending token} (sequencing : plan.frame? = some (frame, source)) :
      Step (.iterating plan pending token) [.looked token false]
        (.iterating source (frame :: pending) token)
  | hop {source context pending token} :
      Step (.iterating (.continueOn source context) pending token) [.looked token false]
        (.iterating (.async (.hopping source context)) pending token)
  | switch {source modify restore pending token} :
      Step (.iterating (.switch source modify restore) pending token)
        [.looked token false, .called (.switching modify token) token]
        (.calling (.switching source restore) pending token)
  | lookUp {kept plan pending token} :
      Step (.iterating (.held kept) pending token)
        [.looked token false, .recalled kept plan] (.iterating plan pending token)
  | skip {frame result pending token} (refused : frame.call? result token = none) :
      Step (.feeding result (frame :: pending) token) [] (.feeding result pending token)
  | meet {frame result pending token call} (taken : frame.call? result token = some call) :
      Step (.feeding result (frame :: pending) token) [.called call token]
        (.calling (frame.site result) pending token)
  | conclude {result token} : Step (.feeding result [] token) [] (.ending (.ofResult result))
  | suspendAnswer {onPanic pending token plan} :
      Step (.calling (.suspended onPanic) pending token) [.answered (.plan plan)]
        (.iterating plan pending token)
  | delayAnswer {onPanic pending token value} :
      Step (.calling (.delayed onPanic) pending token) [.answered (.value value)]
        (.feeding (.ok value) pending token)
  | nameSuspendedAnswer {pending token failure} :
      Step (.calling .namingSuspended pending token) [.answered (.failure failure)]
        (.iterating (.raise failure) pending token)
  | nameDelayedAnswer {pending token failure} :
      Step (.calling .namingDelayed pending token) [.answered (.failure failure)]
        (.feeding (.error failure) pending token)
  | continueAnswer {pending token plan} :
      Step (.calling .continuing pending token) [.answered (.plan plan)]
        (.iterating plan pending token)
  | mapAnswer {pending token value} :
      Step (.calling .mapping pending token) [.answered (.value value)]
        (.iterating (.pure value) pending token)
  | sameToken {source restore pending token} :
      Step (.calling (.switching source restore) pending token) [.answered (.token token)]
        (.iterating source pending token)
  | otherToken {source pending token other} (different : other ≠ token) :
      Step (.calling (.switching source none) pending token) [.answered (.token other)]
        (.iterating source pending other)
  | scopedToken {source restore pending token other} (different : other ≠ token) :
      Step (.calling (.switching source (some restore)) pending token) [.answered (.token other)]
        (.iterating source (.restore token restore :: pending) other)
  | restoreAnswer {result pending token other} :
      Step (.calling (.restoring result) pending token) [.answered (.token other)]
        (.iterating (.ofResult result) pending other)
  | suspendPanic {onPanic pending token panic} :
      Step (.calling (.suspended onPanic) pending token)
        [.panicked panic, .called (.naming onPanic panic) token]
        (.calling .namingSuspended pending token)
  | delayPanic {onPanic pending token panic} :
      Step (.calling (.delayed onPanic) pending token)
        [.panicked panic, .called (.naming onPanic panic) token]
        (.calling .namingDelayed pending token)
  | nameDelayedPanic {pending token panic} :
      Step (.calling .namingDelayed pending token) [.panicked panic]
        (.feeding (.error (.panicked panic)) pending token)
  | panic {site pending token panic} (raises : site.raises = true) :
      Step (.calling site pending token) [.panicked panic]
        (.iterating (.raise (.panicked panic)) pending token)
  | cross {pending token epoch outcome} :
      Step (.suspended epoch pending token) [.crossed epoch outcome] (after outcome pending token)
  | tell {outcome} : Step (.ending outcome) [.told outcome] (.ended outcome)

inductive Path : Nat → Standing Memory → List (Happening Memory) → Standing Memory → Prop where
  | done {standing} : Path 0 standing [] standing
  | step {count standing next goal happenings rest} : Step standing happenings next →
      Path count next rest goal → Path (count + 1) standing (happenings ++ rest) goal

namespace Path

variable {count more : Nat} {standing next goal : Standing Memory}
  {happenings rest : List (Happening Memory)}

theorem trans (first : Path count standing happenings next) (second : Path more next rest goal) :
    Path (count + more) standing (happenings ++ rest) goal := by
  induction first with
  | done => simpa using second
  | step taken _ inductionHypothesis =>
      have joined := Path.step taken (inductionHypothesis second)
      rwa [List.append_assoc, Nat.add_right_comm]

theorem one (taken : Step standing happenings next) : Path 1 standing happenings next := by
  have path := Path.step taken .done
  rwa [List.append_nil] at path

theorem of_ended {outcome : Outcome Value} (path : Path count (.ended outcome) happenings goal) :
    happenings = [] ∧ goal = .ended outcome := by
  cases path with
  | done => exact ⟨rfl, rfl⟩
  | step taken _ => cases taken

end Path

def Leads (standing : Standing Memory) (happenings : List (Happening Memory))
    (goal : Standing Memory) : Prop :=
  ∃ count, Path count standing happenings goal

namespace Leads

variable {standing next goal : Standing Memory} {happenings rest : List (Happening Memory)}

theorem refl : Leads standing [] standing := ⟨0, .done⟩

theorem trans : Leads standing happenings next → Leads next rest goal →
    Leads standing (happenings ++ rest) goal :=
  fun ⟨_, first⟩ ⟨_, second⟩ => ⟨_, first.trans second⟩

theorem one (taken : Step standing happenings next) : Leads standing happenings next :=
  ⟨1, .one taken⟩

end Leads

end Standing

end Trampoline
