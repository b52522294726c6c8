import Trampoline.Proofs.Standing

/-!
How a run goes on from where it stands.

What a run does in an iteration depends on its plan, unless it is stopped or comes to what others
decide; what it does with a result that it feeds to its frames depends on nothing else, and what it
does where it has called code only on how that code ends.  So all of that is told by functions, and
the steps of a run are exactly what these say.
-/

namespace Trampoline

variable {Memory : Type} {pending : List (Frame Memory)} {token : Token}
  {happenings : List (Happening Memory)} {next : Standing Memory}

/-! ### Iterations -/

namespace Standing

/-- What a run does at a plan, unless it is stopped or that depends on others. -/
def forward? (plan : Plan Memory) (pending : List (Frame Memory)) (token : Token) :
    Option (List (Happening Memory) × Standing Memory) :=
  match plan with
  | .pure value => some ([.looked token false], .feeding (.ok value) pending token)
  | .raise failure => some ([.looked token false], .feeding (.error failure) pending token)
  | .suspendWith thunk onPanic =>
      some ([.looked token false, .called (.suspended thunk) token],
        .calling (.suspended onPanic) pending token)
  | .delayWith thunk onPanic =>
      some ([.looked token false, .called (.delayed thunk) token],
        .calling (.delayed onPanic) pending token)
  | .switch source modify restore =>
      some ([.looked token false, .called (.switching modify token) token],
        .calling (.switching source restore) pending token)
  | .continueOn source context =>
      some ([.looked token false], .iterating (.async (.hopping source context)) pending token)
  | plan =>
      plan.frame?.map fun (frame, source) =>
        ([.looked token false], .iterating source (frame :: pending) token)

theorem forward?_of_frame? {plan source : Plan Memory} {frame : Frame Memory}
    (sequencing : plan.frame? = some (frame, source)) (pending : List (Frame Memory))
    (token : Token) :
    forward? plan pending token =
      some ([.looked token false], .iterating source (frame :: pending) token) := by
  cases plan <;> cases sequencing <;> rfl

theorem forward?_looks {plan : Plan Memory} (goes : forward? plan pending token =
    some (happenings, next)) : ∃ more, happenings = .looked token false :: more := by
  cases plan <;> cases goes <;> exact ⟨_, rfl⟩

/-- What comes of an iteration: it is stopped, goes on by itself, reaches a boundary, or looks up the
plan that is held. -/
inductive Iterated (plan : Plan Memory) (pending : List (Frame Memory)) (token : Token) :
    List (Happening Memory) → Standing Memory → Prop where
  | stopped : Iterated plan pending token [.looked token true] (.ending .canceled)
  | forward {early goal} (goes : forward? plan pending token = some (early, goal)) :
      Iterated plan pending token early goal
  | reached {registration epoch} {saved : Stack (Frame Memory)}
      (boundary : plan = .async registration) (saves : saved.toList = pending) :
      Iterated plan pending token [.looked token false, .reached epoch registration token saved]
        (.suspended epoch pending token)
  | recalled {kept found} (held : plan = .held kept) :
      Iterated plan pending token [.looked token false, .recalled kept found]
        (.iterating found pending token)

variable {plan : Plan Memory}

theorem step_iterating_iff :
    Step (.iterating plan pending token) happenings next ↔
      Iterated plan pending token happenings next := by
  constructor
  · intro step
    cases step with
    | stop => exact .stopped
    | descend sequencing => exact .forward (forward?_of_frame? sequencing _ _)
    | reach => exact .reached rfl rfl
    | lookUp => exact .recalled rfl
    | _ => exact .forward rfl
  · intro iterated
    cases iterated with
    | stopped => exact .stop
    | reached boundary saves =>
        subst boundary saves
        exact .reach
    | recalled held =>
        subst held
        exact .lookUp
    | forward goes =>
        cases plan with
        | bind | map | handle | redeem =>
            cases goes
            exact .descend rfl
        | async | held => cases goes
        | _ =>
            cases goes
            constructor

theorem Step.eq_forward {after : List (Happening Memory) × Standing Memory}
    (step : Step (.iterating plan pending token) happenings next)
    (live : .looked token true ∉ happenings) (taken : forward? plan pending token = some after) :
    after = (happenings, next) := by
  cases step_iterating_iff.1 step with
  | stopped => exact absurd (.head _) live
  | forward goes => exact Option.some.inj (taken.symm.trans goes)
  | reached boundary =>
      subst boundary
      cases taken
  | recalled held =>
      subst held
      cases taken

theorem Step.of_held {kept : Nat}
    (step : Step (.iterating (.held kept) pending token) happenings next)
    (live : .looked token true ∉ happenings) :
    ∃ plan, happenings = [.looked token false, .recalled kept plan] ∧
      next = .iterating plan pending token := by
  cases step_iterating_iff.1 step with
  | stopped => exact absurd (.head _) live
  | forward goes => cases goes
  | reached boundary => cases boundary
  | recalled held =>
      cases held
      exact ⟨_, rfl, rfl⟩

theorem Step.of_async {registration : Registration Memory}
    (step : Step (.iterating (.async registration) pending token)
      (.looked token false :: happenings) next) :
    ∃ epoch saved, saved.toList = pending ∧
      happenings = [.reached epoch registration token saved] ∧
        next = .suspended epoch pending token := by
  cases step_iterating_iff.1 step with
  | forward goes => cases goes
  | reached boundary saves =>
      cases boundary
      exact ⟨_, _, saves, rfl, rfl⟩
  | recalled held => cases held

end Standing

/-! ### Results -/

namespace Standing

def fed (result : Result) (token : Token) :
    List (Frame Memory) → List (Happening Memory) × Standing Memory
  | [] => ([], .ending (.ofResult result))
  | frame :: pending =>
      match frame.call? result token with
      | none => ([], .feeding result pending token)
      | some call => ([.called call token], .calling (frame.site result) pending token)

variable {frame : Frame Memory} {result : Result} {call : Call Memory}

theorem fed_of_refused (refused : frame.call? result token = none) :
    fed result token (frame :: pending) = ([], .feeding result pending token) := by
  simp only [fed, refused]

theorem fed_of_taken (taken : frame.call? result token = some call) :
    fed result token (frame :: pending) =
      ([.called call token], .calling (frame.site result) pending token) := by
  simp only [fed, taken]

theorem step_feeding_iff :
    Step (.feeding result pending token) happenings next ↔
      fed result token pending = (happenings, next) := by
  constructor
  · intro step
    cases step with
    | conclude => rfl
    | skip refused => exact fed_of_refused refused
    | meet taken => exact fed_of_taken taken
  · intro goes
    cases pending with
    | nil =>
        cases goes
        exact .conclude
    | cons frame pending =>
        cases called : frame.call? result token with
        | none =>
            cases (fed_of_refused called).symm.trans goes
            exact .skip called
        | some call =>
            cases (fed_of_taken called).symm.trans goes
            exact .meet called

end Standing

/-! ### Replies -/

namespace Site

def onPanic? : Site Memory → Option (Panic → Code Memory .failure)
  | .suspended onPanic | .delayed onPanic => some onPanic
  | _ => none

def naming : Site Memory → Site Memory
  | .delayed _ => .namingDelayed
  | _ => .namingSuspended

/-- Where a run stands if the code that its loop has called raises a failure. -/
def failing (site : Site Memory) (failure : Failure) (pending : List (Frame Memory))
    (token : Token) : Standing Memory :=
  match site with
  | .delayed _ | .namingDelayed => .feeding (.error failure) pending token
  | _ => .iterating (.raise failure) pending token

def panicked (site : Site Memory) (panic : Panic) (pending : List (Frame Memory)) (token : Token) :
    List (Happening Memory) × Standing Memory :=
  match site.onPanic? with
  | some onPanic => ([.called (.naming onPanic panic) token], .calling site.naming pending token)
  | none => ([], site.failing (.panicked panic) pending token)

/-- Where a run stands after an answer of the code that its loop has called, if the answer is of
the form that the code has. -/
def answered? {form : Form} (site : Site Memory) (answer : Answer Memory form)
    (pending : List (Frame Memory)) (token : Token) : Option (Standing Memory) :=
  match site, answer with
  | .suspended _, .plan plan | .continuing, .plan plan => some (.iterating plan pending token)
  | .delayed _, .value value => some (.feeding (.ok value) pending token)
  | .mapping, .value value => some (.iterating (.pure value) pending token)
  | .namingSuspended, .failure failure | .namingDelayed, .failure failure =>
      some (site.failing failure pending token)
  | .switching source restore, .token other =>
      if other = token then some (.iterating source pending token)
      else
        let back := restore.map fun restore => Frame.restore token restore
        some (.iterating source (back.toList ++ pending) other)
  | .restoring result, .token other => some (.iterating (.ofResult result) pending other)
  | _, _ => none

end Site

namespace Standing

/-- What comes of code that was called: an answer, or a panic. -/
inductive Replied (site : Site Memory) (pending : List (Frame Memory)) (token : Token) :
    List (Happening Memory) → Standing Memory → Prop where
  | answered {form : Form} {answer : Answer Memory form} {goal}
      (goes : site.answered? answer pending token = some goal) :
      Replied site pending token [.answered answer] goal
  | panicked (panic : Panic) : Replied site pending token
      (.panicked panic :: (site.panicked panic pending token).1)
      (site.panicked panic pending token).2

theorem step_calling_iff {site : Site Memory} :
    Step (.calling site pending token) happenings next ↔
      Replied site pending token happenings next := by
  constructor
  · intro step
    cases step with
    | sameToken => exact .answered (if_pos rfl)
    | otherToken different | scopedToken different => exact .answered (if_neg different)
    | @panic site _ _ panic raises =>
        have replied : Replied site pending token _ _ := .panicked panic
        cases site <;> first | exact replied | cases raises
    | suspendPanic | delayPanic | nameDelayedPanic => exact .panicked _
    | _ => exact .answered rfl
  · intro replied
    cases replied with
    | @answered form answer next goes =>
        cases site with
        | switching source restore =>
            cases answer with
            | token other =>
                simp only [Site.answered?] at goes
                split at goes
                · rename_i same
                  obtain rfl := same
                  cases goes
                  exact .sameToken
                · rename_i different
                  cases restore with
                  | none =>
                      cases goes
                      exact .otherToken different
                  | some restore =>
                      cases goes
                      exact .scopedToken different
            | _ => cases goes
        | _ =>
            cases answer <;> cases goes
            constructor
    | panicked panic =>
        cases site with
        | suspended => exact .suspendPanic
        | delayed => exact .delayPanic
        | namingDelayed => exact .nameDelayedPanic
        | _ => exact .panic rfl

end Standing

end Trampoline
