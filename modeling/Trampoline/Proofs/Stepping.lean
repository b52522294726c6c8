import Trampoline.Plan.Kind
import Trampoline.Proofs.Iteration
import Trampoline.Proofs.Move.Above
import Trampoline.Proofs.Move.Host
import Trampoline.Proofs.Move.Loop

/-!
What stepping a plan does, and what it leaves.

Stepping does what a run does, up to the first plan that needs a token, and leaves that plan with the
frames that are pending on it; or it leaves the result, if it comes to one.  It has no token of its
own, but calls the code that a run under any token would call.  What is left is no further to step.
-/

namespace Trampoline

variable {Memory : Type} {last middle form : Form}

/-- The moves of a machine on hosts that others may have changed meanwhile. -/
def Focus.after (focus : Focus Memory last) (hosts : List (Host Memory)) : Focus Memory last :=
  hosts.foldl (fun focus host => (Machine.next ⟨focus, host⟩).focus) focus

/-- What happens when stepping looks at a plan, as it would in a run under a token. -/
def Plan.steps (host : Host Memory) (token : Token) : Plan Memory → List (Happening Memory)
  | .suspendWith thunk _ => [.looked token false, .called (.suspended thunk) token]
  | .delayWith thunk _ => [.looked token false, .called (.delayed thunk) token]
  | .held kept => [.looked token false, .recalled kept (host.held kept)]
  | .async _ | .switch _ _ _ => []
  | _ => [.looked token false]

def Caller.steps (panic : Panic) (token : Token) : Caller Memory form last → List (Happening Memory)
  | .suspended _ onPanic | .delayed _ onPanic =>
      [.panicked panic, .called (.naming onPanic panic) token]
  | _ => [.panicked panic]

def Callers.isBottom : Callers Memory last form → Bool
  | .bottom => true
  | .push _ _ => false

namespace Focus

def steps (host : Host Memory) (token : Token) : Focus Memory .plan → List (Happening Memory)
  | .iterate _ plan callers => if callers.isBottom then plan.steps host token else []
  | .feed loop result callers =>
      if callers.isBottom then
        (((Loop.frameFor loop.pending result).1.bind (·.call? result token)).toList).map
          (.called · token)
      else []
  | .code (.done answer) (.push _ callers) => if callers.isBottom then [.answered answer] else []
  | .unwind payload (.push caller callers) =>
      if callers.isBottom then caller.steps (host.capture payload).1 token else []
  | _ => []

/-- What happens in moves of stepping, on hosts that others may have changed meanwhile. -/
def stepsOn (token : Token) : Focus Memory .plan → List (Host Memory) → List (Happening Memory)
  | _, [] => []
  | focus, host :: hosts =>
      focus.steps host token ++ stepsOn token (Machine.next ⟨focus, host⟩).focus hosts

end Focus

def Plan.stepping (plan : Plan Memory) : Focus Memory .plan :=
  .iterate { purpose := .step, token := .uncancelable } plan .bottom

def Plan.isStop : Plan Memory → Bool
  | .async _ | .switch _ _ _ => true
  | _ => false

/-- What stepping leaves, and where a run would stand there. -/
inductive Residual (token : Token) : Plan Memory → Standing Memory → Prop where
  | result {result} : Residual token (.ofResult result) (.feeding result [] token)
  | head {head} (stops : head.isStop = true) : Residual token head (.iterating head [] token)
  | pending {head} {pending : Stack (Frame Memory)} (stops : head.isStop = true) :
      Residual token (.async (.finishing head pending)) (.iterating head pending.toList token)

def Frame.isRestore : Frame Memory → Bool
  | .restore _ _ => true
  | _ => false

/-- A loop of stepping waits for code, with frames that give no token back. -/
inductive Caller.Serves (pending : Stack (Frame Memory)) :
    {form : Form} → Caller Memory form .plan → Site Memory → Prop where
  | suspended {onPanic} :
      Serves pending (.suspended ⟨.step, pending, .uncancelable⟩ onPanic) (.suspended onPanic)
  | delayed {onPanic} :
      Serves pending (.delayed ⟨.step, pending, .uncancelable⟩ onPanic) (.delayed onPanic)
  | namingSuspended :
      Serves pending (.namingSuspended ⟨.step, pending, .uncancelable⟩) .namingSuspended
  | namingDelayed : Serves pending (.namingDelayed ⟨.step, pending, .uncancelable⟩) .namingDelayed
  | continuing : Serves pending (.continuing ⟨.step, pending, .uncancelable⟩) .continuing
  | mapping : Serves pending (.mapping ⟨.step, pending, .uncancelable⟩) .mapping

/-- Where a run under a token would stand that has done what stepping has. -/
inductive Focus.Stands (token : Token) : Focus Memory .plan → Standing Memory → Prop where
  | iterating {plan} {pending : Stack (Frame Memory)}
      (lasting : ∀ frame ∈ pending.toList, frame.isRestore = false) :
      Stands token (.iterate ⟨.step, pending, .uncancelable⟩ plan .bottom)
        (.iterating plan pending.toList token)
  | feeding {result} {pending : Stack (Frame Memory)}
      (lasting : ∀ frame ∈ pending.toList, frame.isRestore = false) :
      Stands token (.feed ⟨.step, pending, .uncancelable⟩ result .bottom)
        (.feeding result pending.toList token)
  | calling {form site} {pending : Stack (Frame Memory)} {caller : Caller Memory form .plan}
      {focus : Focus Memory form} (lasting : ∀ frame ∈ pending.toList, frame.isRestore = false)
      (serves : caller.Serves pending site) (going : focus.isGoing = true) :
      Stands token (focus.above (.push caller .bottom)) (.calling site pending.toList token)
  | left {rest standing} (residual : Residual token rest standing) :
      Stands token (.code (Code.plan rest) .bottom) standing
  | halted {rest standing} (residual : Residual token rest standing) :
      Stands token (.halted (.ok (.plan rest))) standing

theorem Stack.toList_of_isEmpty {Frame : Type} {stack : Stack Frame} (empty : stack.isEmpty = true) :
    stack.toList = [] := by
  obtain ⟨top, overflow⟩ := stack
  simp only [isEmpty, Bool.and_eq_true, Option.isNone_iff_eq_none, Array.isEmpty_iff] at empty
  obtain ⟨rfl, rfl⟩ := empty
  rfl

namespace Focus

variable {token : Token} {host : Host Memory} {pending : Stack (Frame Memory)}

theorem stands_stop {head : Plan Memory} (stops : head.isStop = true) :
    (Loop.stop pending head .bottom host).focus.Stands token
      (.iterating head pending.toList token) := by
  simp only [Loop.stop]
  split
  · rename_i empty
    rw [Stack.toList_of_isEmpty empty]
    exact .left (.head stops)
  · exact .left (.pending stops)

theorem stands_descend {frame : Frame Memory} (keeps : frame.isRestore = false)
    (lasting : ∀ frame ∈ pending.toList, frame.isRestore = false) (source : Plan Memory) :
    (Loop.descend ⟨.step, pending, .uncancelable⟩ frame source .bottom host).focus.Stands token
      (.iterating source (frame :: pending.toList) token) := by
  rw [← Stack.toList_push]
  refine .iterating ?_
  rw [Stack.toList_push]
  intro other member
  rcases List.mem_cons.1 member with rfl | below
  · exact keeps
  · exact lasting other below

theorem stands_call {site : Site Memory} {caller : Caller Memory form .plan}
    (serves : caller.Serves pending site)
    (lasting : ∀ frame ∈ pending.toList, frame.isRestore = false) (code : Code Memory form) :
    (Machine.call code caller .bottom host).focus.Stands token
      (.calling site pending.toList token) := by
  have calling : (Focus.above (.code code .bottom) (.push caller .bottom)).Stands token _ :=
    .calling lasting serves rfl
  exact calling

/-- One move of stepping is some steps of a run, or none. -/
def Goes (token : Token) (host : Host Memory) (focus : Focus Memory .plan)
    (standing : Standing Memory) : Prop :=
  ∃ next, Standing.Leads standing (focus.steps host token) next ∧
    (Machine.next ⟨focus, host⟩).focus.Stands token next

theorem goes_iterate (lasting : ∀ frame ∈ pending.toList, frame.isRestore = false)
    (plan : Plan Memory) :
    Goes token host (.iterate ⟨.step, pending, .uncancelable⟩ plan .bottom)
      (.iterating plan pending.toList token) := by
  cases plan with
  | pure value => exact ⟨_, .one .pure, .feeding lasting⟩
  | raise failure => exact ⟨_, .one .raise, .feeding lasting⟩
  | suspendWith thunk onPanic => exact ⟨_, .one .suspend, stands_call .suspended lasting _⟩
  | delayWith thunk onPanic => exact ⟨_, .one .delay, stands_call .delayed lasting _⟩
  | async registration => exact ⟨_, .refl, stands_stop rfl⟩
  | bind source next => exact ⟨_, .one (.descend rfl), stands_descend rfl lasting source⟩
  | map source change => exact ⟨_, .one (.descend rfl), stands_descend rfl lasting source⟩
  | handle source handler => exact ⟨_, .one (.descend rfl), stands_descend rfl lasting source⟩
  | redeem source onFailure onValue =>
      exact ⟨_, .one (.descend rfl), stands_descend rfl lasting source⟩
  | continueOn source context => exact ⟨_, .one .hop, .iterating lasting⟩
  | switch source modify restore => exact ⟨_, .refl, stands_stop rfl⟩
  | held kept => exact ⟨_, .one .lookUp, .iterating lasting⟩

theorem frameFor_subset {result : Result} {frame : Frame Memory} {below : Stack (Frame Memory)}
    (popped : Loop.frameFor pending result = (some frame, below)) :
    frame :: below.toList ⊆ pending.toList := by
  have listed (accepts : Frame Memory → Bool) (same : pending.popWhere accepts = (some frame, below)) :
      frame :: below.toList ⊆ pending.toList := by
    obtain ⟨skipped, _, found⟩ := Stack.popWhere_spec accepts pending
    rw [same] at found
    rw [found.2]
    exact List.subset_append_right _ _
  cases result with
  | ok value => exact listed _ popped
  | error failure => exact listed _ popped

theorem stands_meet {frame : Frame Memory} {result : Result} {call : Call Memory}
    (keeps : frame.isRestore = false) (taken : frame.call? result token = some call)
    (lasting : ∀ frame ∈ pending.toList, frame.isRestore = false) :
    (Loop.meet ⟨.step, pending, .uncancelable⟩ frame result .bottom host).focus.Stands token
      (.calling (frame.site result) pending.toList token) := by
  cases frame with
  | restore => cases keeps
  | map change =>
      cases result with
      | ok value => exact stands_call .mapping lasting _
      | error failure => cases taken
  | bind next =>
      cases result with
      | ok value => exact stands_call .continuing lasting _
      | error failure => cases taken
  | handle handler =>
      cases result with
      | ok value => cases taken
      | error failure => exact stands_call .continuing lasting _
  | redeem handler next =>
      cases result with
      | ok value => exact stands_call .continuing lasting _
      | error failure => exact stands_call .continuing lasting _

theorem goes_feed (lasting : ∀ frame ∈ pending.toList, frame.isRestore = false) (result : Result) :
    Goes token host (.feed ⟨.step, pending, .uncancelable⟩ result .bottom)
      (.feeding result pending.toList token) := by
  have found := Standing.leads_frameFor pending result token
  simp only [Goes, steps, Machine.next, Loop.feed]
  split at found
  · rename_i below popped
    rw [popped]
    exact ⟨_, found, .left .result⟩
  · rename_i frame below popped
    obtain ⟨call, called, leads⟩ := found
    have among := frameFor_subset popped
    simp only [popped, Option.bind_some, called]
    refine ⟨_, leads.trans (.one (.meet called)), stands_meet ?_ called ?_⟩
    · exact lasting frame (among (.head _))
    · exact fun other member => lasting other (among (.tail _ member))

theorem goes_answer {site : Site Memory} {caller : Caller Memory form .plan}
    (serves : caller.Serves pending site)
    (lasting : ∀ frame ∈ pending.toList, frame.isRestore = false) (answer : Answer Memory form) :
    ∃ next, Standing.Leads (.calling site pending.toList token) [.answered answer] next ∧
      (caller.answer answer .bottom host).focus.Stands token next := by
  cases serves with
  | suspended => cases answer; exact ⟨_, .one .suspendAnswer, .iterating lasting⟩
  | delayed => cases answer; exact ⟨_, .one .delayAnswer, .feeding lasting⟩
  | namingSuspended => cases answer; exact ⟨_, .one .nameSuspendedAnswer, .iterating lasting⟩
  | namingDelayed => cases answer; exact ⟨_, .one .nameDelayedAnswer, .feeding lasting⟩
  | continuing => cases answer; exact ⟨_, .one .continueAnswer, .iterating lasting⟩
  | mapping => cases answer; exact ⟨_, .one .mapAnswer, .iterating lasting⟩

theorem goes_unwind {site : Site Memory} {caller : Caller Memory form .plan}
    (serves : caller.Serves pending site)
    (lasting : ∀ frame ∈ pending.toList, frame.isRestore = false) (payload : Payload) :
    ∃ next, Standing.Leads (.calling site pending.toList token)
        (caller.steps (host.capture payload).1 token) next ∧
      (caller.unwind payload .bottom host).focus.Stands token next := by
  cases serves with
  | suspended => exact ⟨_, .one .suspendPanic, stands_call .namingSuspended lasting _⟩
  | delayed => exact ⟨_, .one .delayPanic, stands_call .namingDelayed lasting _⟩
  | namingSuspended => exact ⟨_, .one (.panic rfl), .iterating lasting⟩
  | namingDelayed => exact ⟨_, .one .nameDelayedPanic, .feeding lasting⟩
  | continuing => exact ⟨_, .one (.panic rfl), .iterating lasting⟩
  | mapping => exact ⟨_, .one (.panic rfl), .iterating lasting⟩

theorem steps_above {caller : Caller Memory form .plan} {focus : Focus Memory form}
    (going : focus.isGoing = true) (answers : ∀ answer, focus ≠ .code (.done answer) .bottom)
    (panics : ∀ payload, focus ≠ .unwind payload .bottom) :
    (focus.above (.push caller .bottom)).steps host token = [] := by
  cases focus with
  | code code callers =>
      cases callers with
      | bottom =>
          cases code with
          | done answer => exact absurd rfl (answers answer)
          | _ => rfl
      | push caller callers => cases callers <;> cases code <;> rfl
  | iterate loop plan callers => cases callers <;> rfl
  | feed loop result callers => cases callers <;> rfl
  | unwind payload callers =>
      cases callers with
      | bottom => exact absurd rfl (panics payload)
      | push caller callers => cases callers <;> rfl
  | finish | complete => rfl
  | halted => cases going

theorem goes_called {site : Site Memory} {caller : Caller Memory form .plan} {focus : Focus Memory form}
    (serves : caller.Serves pending site)
    (lasting : ∀ frame ∈ pending.toList, frame.isRestore = false) (going : focus.isGoing = true) :
    Goes token host (focus.above (.push caller .bottom)) (.calling site pending.toList token) := by
  by_cases answers : ∃ answer, focus = .code (.done answer) .bottom
  · obtain ⟨answer, rfl⟩ := answers
    exact goes_answer serves lasting answer
  · by_cases panics : ∃ payload, focus = .unwind payload .bottom
    · obtain ⟨payload, rfl⟩ := panics
      exact goes_unwind serves lasting payload
    · rw [not_exists] at answers panics
      have remains := Machine.isGoing_next host going answers panics
      rw [Goes, Machine.above_next _ host going, above_of_going remains,
        steps_above going answers panics]
      exact ⟨_, .refl, .calling lasting serves remains⟩

/-- Every move of stepping is some steps of a run, or none. -/
theorem Stands.goes {focus : Focus Memory .plan} {standing : Standing Memory}
    (stands : focus.Stands token standing) (host : Host Memory) : Goes token host focus standing := by
  cases stands with
  | iterating lasting => exact goes_iterate lasting _
  | feeding lasting => exact goes_feed lasting _
  | calling lasting serves going => exact goes_called serves lasting going
  | left residual => exact ⟨_, .refl, .halted residual⟩
  | halted residual => exact ⟨_, .refl, .halted residual⟩

theorem Stands.after {focus : Focus Memory .plan} {standing : Standing Memory}
    (stands : focus.Stands token standing) (hosts : List (Host Memory)) :
    ∃ next, Standing.Leads standing (focus.stepsOn token hosts) next ∧
      (focus.after hosts).Stands token next := by
  induction hosts generalizing focus standing with
  | nil => exact ⟨standing, .refl, stands⟩
  | cons host hosts inductionHypothesis =>
      obtain ⟨next, leads, stands'⟩ := stands.goes host
      obtain ⟨goal, later, reaches⟩ := inductionHypothesis stands'
      exact ⟨goal, leads.trans later, reaches⟩

theorem Stands.residual {rest : Plan Memory} {standing : Standing Memory}
    (stands : (Focus.code (Code.plan rest) .bottom).Stands token standing) :
    Residual token rest standing := by
  generalize same : Focus.code (Code.plan rest) .bottom = focus at stands
  cases stands with
  | left residual =>
      cases same
      exact residual
  | @calling form site pending caller focus lasting serves going =>
      cases focus with
      | code code callers => cases callers <;> cases same
      | halted => cases going
      | _ => cases same
  | _ => cases same

end Focus

/-- A run under any token would do what stepping has done, and stand where stepping has stopped. -/
theorem Plan.leads_of_stepping (plan : Plan Memory) (token : Token) {rest : Plan Memory}
    {hosts : List (Host Memory)}
    (left : plan.stepping.after hosts = .code (Code.plan rest) .bottom) :
    ∃ standing,
      Standing.Leads (.iterating plan [] token) (plan.stepping.stepsOn token hosts) standing ∧
        Residual token rest standing := by
  have lasting : ∀ frame ∈ ({} : Stack (Frame Memory)).toList, frame.isRestore = false := by
    simp [Stack.toList]
  have begins : plan.stepping.Stands token (.iterating plan ({} : Stack (Frame Memory)).toList token) :=
    .iterating lasting
  obtain ⟨standing, leads, stands⟩ := begins.after hosts
  rw [left] at stands
  exact ⟨standing, leads, stands.residual⟩

section Residual

variable {token : Token} {rest : Plan Memory} {standing : Standing Memory}

end Residual

section Step

variable {hosts : List (Host Memory)}

end Step

end Trampoline
