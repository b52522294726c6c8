import Trampoline.Proofs.Move.Start

/-!
Moves of a loop.

The loop of a run takes one or more steps from where the run stands, or arms a boundary; a loop that
only steps a plan does nothing to any run.
-/

namespace Trampoline

variable {Memory : Type} {last form : Form} {thread run : Nat} {host : Host Memory}

namespace Retokened

variable {runs after : Array (Run Memory)}

theorem refl : Retokened run runs runs := .inl rfl

theorem size_eq (retokened : Retokened run runs after) : after.size = runs.size := by
  rcases retokened with rfl | ⟨token, rfl⟩
  · rfl
  · exact Array.size_modify

end Retokened

theorem Machine.Follows.of_leads {standing next : Standing Memory}
    {happenings : List (Happening Memory)} {loops : List (Nat × Standing Memory)}
    {openings : List Opening} {due : List (Due Memory)} {runs kept : Array (Run Memory)}
    {warnings : List Nat}
    {after : Machine Memory last} (leads : Standing.Leads standing happenings next)
    (inner : happenings.all Happening.isInner = true)
    (retokened : Retokened run runs kept)
    (same : after.situation = ⟨(run, next) :: loops, openings, due, [], kept, warnings⟩) :
    Follows thread ⟨(run, standing) :: loops, openings, due, [], runs, warnings⟩
      (happenings.map fun happening => (run, happening)) after := by
  apply of_effects
  · rw [same]
    exact .one (.loop leads inner retokened)
  · have runsSame : after.host.runs = kept := congrArg Situation.runs same
    exact Nat.le_of_eq (by rw [runsSame, retokened.size_eq])

namespace Frame

theorem call?_of_not_accepts {frame : Frame Memory} {result : Result} (token : Token)
    (refused : (match result with
      | .ok _ => frame.acceptsValue
      | .error _ => frame.acceptsFailure) = false) : frame.call? result token = none := by
  cases result <;> cases frame <;> first | rfl | cases refused

theorem call?_of_accepts {frame : Frame Memory} {result : Result} (token : Token)
    (accepted : (match result with
      | .ok _ => frame.acceptsValue
      | .error _ => frame.acceptsFailure) = true) :
    ∃ call, frame.call? result token = some call := by
  cases result <;> cases frame <;> first | exact ⟨_, rfl⟩ | cases accepted

end Frame

namespace Standing

theorem leads_skip {result : Result} {token : Token} {skipped : List (Frame Memory)}
    (pending : List (Frame Memory)) (refused : ∀ frame ∈ skipped, frame.call? result token = none) :
    Leads (.feeding result (skipped ++ pending) token) [] (.feeding result pending token) := by
  induction skipped with
  | nil => exact .refl
  | cons frame rest inductionHypothesis =>
      have first : Leads (.feeding result (frame :: rest ++ pending) token) []
          (.feeding result (rest ++ pending) token) :=
        .one (.skip (refused frame (List.mem_cons_self ..)))
      exact first.trans (inductionHypothesis fun other member =>
        refused other (List.mem_cons_of_mem _ member))

theorem leads_frameFor (pending : Stack (Frame Memory)) (result : Result) (token : Token) :
    match Loop.frameFor pending result with
    | (none, _) => Leads (.feeding result pending.toList token) [] (.feeding result [] token)
    | (some frame, below) => ∃ call, frame.call? result token = some call ∧
        Leads (.feeding result pending.toList token) []
          (.feeding result (frame :: below.toList) token) := by
  have same : Loop.frameFor pending result = pending.popWhere fun frame =>
      match result with
      | .ok _ => frame.acceptsValue
      | .error _ => frame.acceptsFailure := by
    cases result <;> rfl
  rw [same]
  generalize accepting : (fun frame : Frame Memory => _) = accepts
  obtain ⟨skipped, allRefused, found⟩ := Stack.popWhere_spec accepts pending
  have refused : ∀ frame ∈ skipped, frame.call? result token = none := by
    intro frame member
    apply Frame.call?_of_not_accepts
    have notAccepted := allRefused frame member
    rwa [← accepting] at notAccepted
  split at found
  · rename_i below popped
    rw [popped, found, ← List.append_nil skipped]
    exact leads_skip [] refused
  · rename_i frame below popped
    obtain ⟨accepted, listed⟩ := found
    rw [← accepting] at accepted
    obtain ⟨call, called⟩ := Frame.call?_of_accepts token accepted
    rw [popped, listed]
    exact ⟨call, called, leads_skip _ refused⟩

end Standing

/-- The situation of callers below the loop of a run, which stands somewhere. -/
def Callers.situationUnder (callers : Callers Memory last .unit) (host : Host Memory) (run : Nat)
    (standing : Standing Memory) : Situation Memory :=
  ⟨(run, standing) :: callers.loops, callers.openings host.thread.id, host.due, [], host.runs,
    host.warnings⟩

namespace Loop

open Machine

section Run

variable {callers : Callers Memory last .unit} {pending : Stack (Frame Memory)} {token : Token}

theorem follows_leads {standing next : Standing Memory} {happenings : List (Happening Memory)}
    {after : Machine Memory last} (leads : Standing.Leads standing happenings next)
    (inner : happenings.all Happening.isInner = true)
    (same : after.situation = callers.situationUnder host run next) :
    Follows thread (callers.situationUnder host run standing)
      (happenings.map fun happening => (run, happening)) after :=
  .of_leads leads inner .refl same

theorem situation_descend (frame : Frame Memory) (source : Plan Memory) :
    (Loop.descend ⟨.run run, pending, token⟩ frame source callers host).situation =
      callers.situationUnder host run (.iterating source (frame :: pending.toList) token) := by
  rw [← Stack.toList_push]
  simp only [descend, push, Host.readSettings]
  split
  · split <;> rfl
  · rfl

theorem follows_suspend (registration : Registration Memory) :
    Follows host.thread.id
      (callers.situationUnder host run (.iterating (.async registration) pending.toList token))
      [(run, .looked token false),
        (run, .reached (host.epoch run + 1) registration token pending)]
      (Loop.suspend ⟨.run run, pending, token⟩ registration callers host) := by
  have epoch : host.epoch run + 1 =
      (((host.boundary? run).getD { token }).arm token host.thread.id pending).epoch := by
    unfold Host.epoch
    cases host.boundary? run <;> rfl
  rw [epoch]
  generalize armed : ((host.boundary? run).getD { token }).arm token host.thread.id pending =
    boundary
  have called : Follows host.thread.id _ [] _ :=
    follows_call registration token ⟨run, boundary.epoch⟩
      (.push (.registering run boundary.epoch token) callers)
      ((host.setBoundary run boundary).emit (.suspending boundary.epoch)).openGuard
  simp only [suspend, armed]
  exact .after_effect (.reach armed.symm) called Array.size_modify

theorem follows_iterate_run (plan : Plan Memory) :
    Follows host.thread.id
      (callers.situationUnder host run (.iterating plan pending.toList token))
      (Focus.happenings host (.iterate ⟨.run run, pending, token⟩ plan callers))
      (Loop.iterate ⟨.run run, pending, token⟩ plan callers host) := by
  simp only [Focus.happenings, note, iterate]
  cases canceled : host.tokens.isCanceled token with
  | true => exact follows_leads (.one .stop) rfl rfl
  | false =>
      simp only [Bool.false_eq_true, if_false]
      cases plan with
      | pure value => exact follows_leads (.one .pure) rfl rfl
      | raise failure => exact follows_leads (.one .raise) rfl rfl
      | suspendWith thunk onPanic => exact follows_leads (.one .suspend) rfl rfl
      | delayWith thunk onPanic => exact follows_leads (.one .delay) rfl rfl
      | async registration => exact follows_suspend registration
      | bind source next =>
          exact follows_leads (.one (.descend rfl)) rfl (situation_descend (.bind next) source)
      | map source change =>
          exact follows_leads (.one (.descend rfl)) rfl (situation_descend (.map change) source)
      | handle source handler =>
          exact follows_leads (.one (.descend rfl)) rfl (situation_descend (.handle handler) source)
      | redeem source onFailure onValue =>
          exact follows_leads (.one (.descend rfl)) rfl
            (situation_descend (.redeem onFailure onValue) source)
      | continueOn source context => exact follows_leads (.one .hop) rfl rfl
      | switch source modify restore => exact follows_leads (.one .switch) rfl rfl
      | held kept => exact follows_leads (.one .lookUp) rfl rfl

theorem follows_feed_run (result : Result) :
    Follows thread (callers.situationUnder host run (.feeding result pending.toList token))
      (Focus.happenings host (.feed ⟨.run run, pending, token⟩ result callers))
      (Loop.feed ⟨.run run, pending, token⟩ result callers host) := by
  have found := Standing.leads_frameFor pending result token
  simp only [Focus.happenings, note, feed]
  split at found
  · rename_i below popped
    simp only [popped]
    exact follows_leads (found.trans (.one .conclude)) rfl rfl
  · rename_i frame below popped
    obtain ⟨call, called, leads⟩ := found
    simp only [popped, Option.bind_some, called]
    refine follows_leads (leads.trans (.one (.meet called))) rfl ?_
    cases frame <;> cases result <;> first | rfl | cases called

theorem follows_goUnder_run (tokenAnswer : Token) (source : Plan Memory)
    (restore : Option (Result → Token → Token → Code Memory .token)) :
    Follows thread
      (callers.situationUnder host run (.calling (.switching source restore) pending.toList token))
      [(run, .answered (.token tokenAnswer))]
      (Loop.goUnder ⟨.run run, pending, token⟩ tokenAnswer source restore callers host) := by
  simp only [goUnder]
  split
  · rename_i same
    subst same
    exact follows_leads (.one .sameToken) rfl rfl
  · rename_i different
    cases restore with
    | none => exact .of_leads (.one (.otherToken different)) rfl (.inr ⟨tokenAnswer, rfl⟩) rfl
    | some restore =>
        exact .of_leads (.one (.scopedToken different)) rfl (.inr ⟨tokenAnswer, rfl⟩)
          (situation_descend (.restore token restore) source)

theorem follows_goBackTo_run (tokenAnswer : Token) (result : Result) :
    Follows thread
      (callers.situationUnder host run (.calling (.restoring result) pending.toList token))
      [(run, .answered (.token tokenAnswer))]
      (Loop.goBackTo ⟨.run run, pending, token⟩ tokenAnswer result callers host) := by
  simp only [goBackTo]
  split
  · rename_i same
    subst same
    exact follows_leads (.one .restoreAnswer) rfl rfl
  · exact .of_leads (.one .restoreAnswer) rfl (.inr ⟨tokenAnswer, rfl⟩) rfl

end Run

section Step

variable {callers : Callers Memory last .plan} {pending : Stack (Frame Memory)} {token : Token}

theorem follows_step {after : Machine Memory last}
    (same : after.situation = callers.situation host host.due) :
    Follows thread (callers.situation host host.due) [] after :=
  .of_same same.symm

theorem situation_descend_step (frame : Frame Memory) (source : Plan Memory) :
    (Loop.descend ⟨.step, pending, token⟩ frame source callers host).situation =
      callers.situation host host.due := by
  simp only [descend, push, Host.readSettings]
  split
  · split <;> rfl
  · rfl

theorem situation_stop (head : Plan Memory) :
    (stop pending head callers host).situation = callers.situation host host.due := by
  simp only [stop]
  split <;> rfl

theorem follows_iterate_step (plan : Plan Memory) :
    Follows thread (callers.situation host host.due) []
      (Loop.iterate ⟨.step, pending, token⟩ plan callers host) := by
  apply follows_step
  cases plan with
  | bind | map | handle | redeem => exact situation_descend_step _ _
  | async | switch => exact situation_stop _
  | _ => rfl

theorem follows_feed_step (result : Result) :
    Follows thread (callers.situation host host.due) []
      (Loop.feed ⟨.step, pending, token⟩ result callers host) := by
  apply follows_step
  simp only [feed]
  split
  · rfl
  · rename_i frame below popped
    cases frame <;> cases result <;> rfl

theorem follows_goUnder_step (tokenAnswer : Token) (source : Plan Memory)
    (restore : Option (Result → Token → Token → Code Memory .token)) :
    Follows thread (callers.situation host host.due) []
      (Loop.goUnder ⟨.step, pending, token⟩ tokenAnswer source restore callers host) := by
  apply follows_step
  simp only [goUnder]
  split
  · rfl
  · cases restore with
    | none => rfl
    | some restore => exact situation_descend_step _ _

theorem follows_goBackTo_step (tokenAnswer : Token) (result : Result) :
    Follows thread (callers.situation host host.due) []
      (Loop.goBackTo ⟨.step, pending, token⟩ tokenAnswer result callers host) := by
  apply follows_step
  simp only [goBackTo]
  split <;> rfl

end Step

end Loop

end Trampoline
