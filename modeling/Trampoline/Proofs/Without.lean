import Mathlib.Data.Nat.Pairing
import Trampoline.Proofs.Region

/-!
Programs without some of their hops.

A hop that is left out is replaced by its source, wherever it stands in a plan and in the plans that
code answers with.  What a run does without coming to such a hop it does without the hops just the
same.  Boundaries are numbered anew, so that those of several runs can be told apart.
-/

namespace Trampoline

variable {Memory : Type} (chosen : Plan Memory → Context Memory → Bool)

def Plan.without : Plan Memory → Plan Memory
  | .bind source next => .bind source.without next
  | .map source change => .map source.without change
  | .handle source handler => .handle source.without handler
  | .redeem source onFailure onValue => .redeem source.without onFailure onValue
  | .switch source modify restore => .switch source.without modify restore
  | .continueOn source context =>
      if chosen source context then source.without else .continueOn source.without context
  | .async (.hopping source context) =>
      if chosen source context then source.without else .async (.hopping source.without context)
  | .async (.finishing head pending) => .async (.finishing head.without pending)
  | .async (.calling register) => .async (.calling register)
  | .pure value => .pure value
  | .raise failure => .raise failure
  | .suspendWith thunk onPanic => .suspendWith thunk onPanic
  | .delayWith thunk onPanic => .delayWith thunk onPanic
  | .held kept => .held kept

def Plan.isLeftOut : Plan Memory → Bool
  | .continueOn source context | .async (.hopping source context) => chosen source context
  | _ => false

def Registration.without : Registration Memory → Registration Memory
  | .hopping source context => .hopping (source.without chosen) context
  | .finishing head pending => .finishing (head.without chosen) pending
  | .calling register => .calling register

def Answer.without {form : Form} : Answer Memory form → Answer Memory form
  | .plan source => .plan (source.without chosen)
  | answer => answer

def Site.without : Site Memory → Site Memory
  | .switching source restore => .switching (source.without chosen) restore
  | site => site

/-- What happens to a run, with the number of the run in those of its boundaries. -/
def Happening.without (run : Nat) : Happening Memory → Happening Memory
  | .answered answer => .answered (answer.without chosen)
  | .recalled kept plan => .recalled kept (plan.without chosen)
  | .reached epoch registration token pending =>
      .reached (Nat.pair run epoch) (registration.without chosen) token pending
  | .crossed epoch outcome => .crossed (Nat.pair run epoch) outcome
  | happening => happening

def Standing.without (run : Nat) : Standing Memory → Standing Memory
  | .iterating plan pending token => .iterating (plan.without chosen) pending token
  | .calling site pending token => .calling (site.without chosen) pending token
  | .suspended epoch pending token => .suspended (Nat.pair run epoch) pending token
  | standing => standing

/-- The boundaries of hops that are left out do not show. -/
def Registration.isLeftOut (registration : Registration Memory) : Bool :=
  (Plan.async registration).isLeftOut chosen

def Query.without : Query Memory → Query Memory
  | .reach registration token => .reach (registration.without chosen) token
  | query => query

def Reply.without : Reply Memory → Reply Memory
  | .answered answer => .answered (answer.without chosen)
  | .recalled plan => .recalled (plan.without chosen)
  | reply => reply

def Moment.without : Moment Memory → Moment Memory
  | .asked query => .asked (query.without chosen)
  | .replied reply => .replied (reply.without chosen)

variable {chosen} {run : Nat}

theorem Plan.without_none : (plan : Plan Memory) → plan.without (fun _ _ => false) = plan
  | .bind source _ | .map source _ | .handle source _ | .redeem source _ _ | .switch source _ _
  | .continueOn source _ | .async (.hopping source _) | .async (.finishing source _) => by
      simp [Plan.without, without_none source]
  | .async (.calling _) | .pure _ | .raise _ | .suspendWith _ _ | .delayWith _ _ | .held _ => rfl

theorem Reply.without_none : (Reply.without (fun _ _ => false) : Reply Memory → Reply Memory) = id := by
  funext reply
  cases reply with
  | answered answer => cases answer <;> simp [Reply.without, Answer.without, Plan.without_none]
  | recalled plan => simp [Reply.without, Plan.without_none]
  | _ => rfl

@[simp]
theorem Plan.without_ofResult (result : Result) :
    (Plan.ofResult result : Plan Memory).without chosen = .ofResult result := by
  cases result <;> rfl

theorem Plan.without_async {registration : Registration Memory}
    (stays : (Plan.async registration).isLeftOut chosen = false) :
    (Plan.async registration).without chosen = .async (registration.without chosen) := by
  cases registration with
  | hopping source context => exact if_neg (by simpa [Plan.isLeftOut] using stays)
  | _ => rfl

theorem Plan.without_continueOn {source : Plan Memory} {context : Context Memory}
    (stays : (Plan.continueOn source context).isLeftOut chosen = false) :
    (Plan.continueOn source context).without chosen =
      .continueOn (source.without chosen) context :=
  if_neg (by simpa [Plan.isLeftOut] using stays)

theorem Plan.without_of_leftOut {source : Plan Memory} {context : Context Memory}
    (leaves : chosen source context = true) :
    (Plan.continueOn source context).without chosen = source.without chosen ∧
      (Plan.async (.hopping source context)).without chosen = source.without chosen :=
  ⟨if_pos leaves, if_pos leaves⟩

theorem Plan.frame?_without {plan source : Plan Memory} {frame : Frame Memory}
    (sequencing : plan.frame? = some (frame, source)) :
    (plan.without chosen).frame? = some (frame, source.without chosen) := by
  cases plan <;> cases sequencing <;> rfl

@[simp]
theorem Registration.isNested_without (registration : Registration Memory) :
    (registration.without chosen).isNested = registration.isNested := by
  cases registration <;> rfl

section Transcript

variable {inside insideWithout : Registration Memory → Nat → Token → List (Moment Memory)}
  (boundary? : Option (Registration Memory)) (happenings : List (Happening Memory))

theorem boundaryAfter_without :
    boundaryAfter (boundary?.map (Registration.without chosen))
        (happenings.map (Happening.without chosen run)) =
      (boundaryAfter boundary? happenings).map (Registration.without chosen) := by
  induction happenings generalizing boundary? with
  | nil => rfl
  | cons happening rest inductionHypothesis =>
      rw [List.map_cons]
      cases happening with
      | reached epoch registration token pending => exact inductionHypothesis (some registration)
      | crossed epoch outcome => exact inductionHypothesis none
      | _ => exact inductionHypothesis boundary?

/-- Where no hop is left out, the transcript of what happens without the hops is that of what happens,
without them. -/
theorem transcript_without
    (same : ∀ registration epoch token, registration.isLeftOut chosen = false →
      insideWithout (registration.without chosen) (Nat.pair run epoch) token =
        (inside registration epoch token).map (Moment.without chosen))
    (stays : ∀ epoch registration token pending,
      .reached epoch registration token pending ∈ happenings →
        registration.isLeftOut chosen = false) :
    transcript (fun _ => false) insideWithout (boundary?.map (Registration.without chosen))
        (happenings.map (Happening.without chosen run)) =
      (transcript (Registration.isLeftOut chosen) inside boundary? happenings).map
        (Moment.without chosen) := by
  induction happenings generalizing boundary? with
  | nil => rfl
  | cons happening rest inductionHypothesis =>
      have later := fun boundary? => inductionHypothesis boundary?
        fun epoch registration token pending member => stays epoch registration token pending
          (.tail _ member)
      rw [List.map_cons]
      cases happening with
      | reached epoch registration token pending =>
          have opening : (registration.without chosen).opening (fun _ => false) insideWithout
              (Nat.pair run epoch) token =
                (registration.opening (Registration.isLeftOut chosen) inside epoch token).map
                  (Moment.without chosen) := by
            have kept := same registration epoch token (stays _ _ _ _ (.head _))
            cases registration <;> first | rfl | exact kept
          simp only [Happening.without, transcript, List.map_append, opening]
          rw [← later (some registration), Option.map_some]
      | crossed epoch outcome =>
          have closing : (boundary?.map (Registration.without chosen)).toList.flatMap
              (·.closing (fun _ => false) outcome) =
                (boundary?.toList.flatMap
                  (·.closing (Registration.isLeftOut chosen) outcome)).map
                    (Moment.without chosen) := by
            rcases boundary? with _ | registration
            · rfl
            · cases registration <;> rfl
          simp only [Happening.without, transcript, List.map_append, closing]
          rw [← later none, Option.map_none]
      | _ =>
          simp only [Happening.without, transcript, List.map_append]
          rw [← later boundary?]
          rfl

end Transcript

namespace Standing

variable {standing next : Standing Memory} {happenings : List (Happening Memory)}

def isLeaving (chosen : Plan Memory → Context Memory → Bool) : Standing Memory → Bool
  | .iterating plan _ _ => plan.isLeftOut chosen
  | _ => false

theorem cases_of_isLeaving (leaves : standing.isLeaving chosen = true) :
    ∃ source context pending token, chosen source context = true ∧
      standing.without chosen run = .iterating (source.without chosen) pending token ∧
        (standing = .iterating (.continueOn source context) pending token ∨
          standing = .iterating (.async (.hopping source context)) pending token) := by
  unfold isLeaving Plan.isLeftOut at leaves
  split at leaves
  · split at leaves
    · have source := (Plan.without_of_leftOut leaves).1
      exact ⟨_, _, _, _, leaves, congrArg (iterating · _ _) source, .inl rfl⟩
    · have source := (Plan.without_of_leftOut leaves).2
      exact ⟨_, _, _, _, leaves, congrArg (iterating · _ _) source, .inr rfl⟩
    · cases leaves
  · cases leaves

@[simp]
theorem without_after (outcome : Outcome Value) (pending : List (Frame Memory)) (token : Token) :
    (after outcome pending token).without chosen run = after outcome pending token := by
  cases outcome <;> rfl

/-- Unless a run stands at a hop that is left out, it goes on without those hops alike. -/
theorem Step.without (step : Step standing happenings next)
    (stays : standing.isLeaving chosen = false) :
    Step (standing.without chosen run) (happenings.map (Happening.without chosen run))
      (next.without chosen run) := by
  cases step with
  | @reach registration token epoch pending =>
      simp only [Standing.without, Plan.without_async stays]
      exact .reach
  | hop =>
      have later : (Plan.async (.hopping _ _)).without chosen = _ := Plan.without_async stays
      simp only [Standing.without, Plan.without_continueOn stays, later]
      exact .hop
  | descend sequencing => exact .descend (Plan.frame?_without sequencing)
  | otherToken different => exact .otherToken different
  | scopedToken different => exact .scopedToken different
  | skip refused => exact .skip refused
  | @meet frame result _ _ _ taken =>
      have same : (frame.site result).without chosen = frame.site result := by cases frame <;> rfl
      simp only [Standing.without, same]
      exact .meet taken
  | @panic site _ _ _ raises =>
      have same : (site.without chosen).raises = site.raises := by cases site <;> rfl
      exact .panic (same.trans raises)
  | cross =>
      rw [without_after]
      exact .cross
  | restoreAnswer =>
      simp only [Standing.without, Plan.without_ofResult]
      exact .restoreAnswer
  | stop => exact .stop
  | pure => exact .pure
  | raise => exact .raise
  | suspend => exact .suspend
  | delay => exact .delay
  | «switch» => exact .switch
  | lookUp => exact .lookUp
  | conclude => exact .conclude
  | suspendAnswer => exact .suspendAnswer
  | delayAnswer => exact .delayAnswer
  | nameSuspendedAnswer => exact .nameSuspendedAnswer
  | nameDelayedAnswer => exact .nameDelayedAnswer
  | continueAnswer => exact .continueAnswer
  | mapAnswer => exact .mapAnswer
  | sameToken => exact .sameToken
  | suspendPanic => exact .suspendPanic
  | delayPanic => exact .delayPanic
  | nameDelayedPanic => exact .nameDelayedPanic
  | tell => exact .tell

end Standing

end Trampoline
