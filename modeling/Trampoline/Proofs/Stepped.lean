import Trampoline.Proofs.Determinacy

/-!
What happens while a plan is stepped.

Stepping looks at no token that is canceled and comes to no boundary.  Code that it calls is run
above the loop that waits for it, and is replied to as it ends: so what shows of stepping is one of
exchanges.
-/

namespace Trampoline

variable {Memory : Type}

def Happening.isStepped : Happening Memory → Bool
  | .looked _ found => !found
  | .called _ _ | .answered _ | .panicked _ | .recalled _ _ => true
  | _ => false

section Stepped

variable {token : Token} {host : Host Memory}

theorem Happening.isPassage_of_isStepped {happening : Happening Memory}
    (stepped : happening.isStepped = true) : happening.isPassage = false := by
  cases happening <;> first | rfl | cases stepped

end Stepped

namespace Focus

variable {last? : Option (Happening Memory)} {token : Token} {host : Host Memory}
  {pending : Stack (Frame Memory)}

/-- Stepping runs the code that it has called last, or waits for nothing. -/
inductive Heeds : Option (Happening Memory) → Focus Memory .plan → Prop where
  | iterating {last? plan} {pending : Stack (Frame Memory)}
      (lasting : ∀ frame ∈ pending.toList, frame.isRestore = false) :
      Heeds last? (.iterate ⟨.step, pending, .uncancelable⟩ plan .bottom)
  | feeding {last? result} {pending : Stack (Frame Memory)}
      (lasting : ∀ frame ∈ pending.toList, frame.isRestore = false) :
      Heeds last? (.feed ⟨.step, pending, .uncancelable⟩ result .bottom)
  | serving {call token site} {pending : Stack (Frame Memory)}
      {caller : Caller Memory call.form .plan} {inner : Focus Memory call.form}
      (lasting : ∀ frame ∈ pending.toList, frame.isRestore = false)
      (serves : caller.Serves pending site) (going : inner.isGoing = true)
      (yields : inner.Yields call.code.Ends) :
      Heeds (some (.called call token)) (inner.above (.push caller .bottom))
  | left {last? rest} : Heeds last? (.code (Code.plan rest) .bottom)
  | halted {last? rest} : Heeds last? (.halted (.ok (.plan rest)))

theorem heeds_call (call : Call Memory) {site : Site Memory} {caller : Caller Memory call.form .plan}
    (serves : caller.Serves pending site)
    (lasting : ∀ frame ∈ pending.toList, frame.isRestore = false) :
    (Machine.call call.code caller .bottom host).focus.Heeds (some (.called call token)) := by
  have calling : (above (.code call.code .bottom) (.push caller .bottom)).Heeds
      (some (.called call token)) := .serving lasting serves rfl (.code fun _ ends => ends)
  exact calling

theorem heeds_descend {frame : Frame Memory} (keeps : frame.isRestore = false)
    (lasting : ∀ frame ∈ pending.toList, frame.isRestore = false) (source : Plan Memory) :
    (Loop.descend ⟨.step, pending, .uncancelable⟩ frame source .bottom host).focus.Heeds last? := by
  refine .iterating ?_
  rw [Stack.toList_push]
  exact List.forall_mem_cons.2 ⟨keeps, lasting⟩

theorem heeds_stop (head : Plan Memory) :
    (Loop.stop pending head .bottom host).focus.Heeds last? := by
  simp only [Loop.stop]
  split <;> exact .left

/-- In a move of stepping, replies come right after what they reply to, and stepping runs the code
that has been called last. -/
def HeedsNext (last? : Option (Happening Memory)) (token : Token) (host : Host Memory)
    (focus : Focus Memory .plan) : Prop :=
  Linked Happening.RepliesTo last? (focus.steps host token) ∧
    (Machine.next ⟨focus, host⟩).focus.Heeds ((focus.steps host token).getLast?.or last?)

theorem heeds_iterate (lasting : ∀ frame ∈ pending.toList, frame.isRestore = false)
    (plan : Plan Memory) :
    HeedsNext last? token host (.iterate ⟨.step, pending, .uncancelable⟩ plan .bottom) := by
  cases plan with
  | pure | raise => exact ⟨⟨trivial, trivial⟩, .feeding lasting⟩
  | suspendWith thunk onPanic =>
      exact ⟨⟨trivial, trivial, trivial⟩, heeds_call (.suspended thunk) .suspended lasting⟩
  | delayWith thunk onPanic =>
      exact ⟨⟨trivial, trivial, trivial⟩, heeds_call (.delayed thunk) .delayed lasting⟩
  | async | «switch» => exact ⟨trivial, heeds_stop _⟩
  | bind | map | handle | redeem => exact ⟨⟨trivial, trivial⟩, heeds_descend rfl lasting _⟩
  | continueOn => exact ⟨⟨trivial, trivial⟩, .iterating lasting⟩
  | held => exact ⟨⟨trivial, trivial, trivial⟩, .iterating lasting⟩

theorem heeds_meet {frame : Frame Memory} {result : Result} {call : Call Memory}
    (keeps : frame.isRestore = false) (taken : frame.call? result token = some call)
    (lasting : ∀ frame ∈ pending.toList, frame.isRestore = false) :
    (Loop.meet ⟨.step, pending, .uncancelable⟩ frame result .bottom host).focus.Heeds
      (some (.called call token)) := by
  cases frame with
  | restore => cases keeps
  | map change =>
      cases result with
      | ok value =>
          cases taken
          exact heeds_call (.mapping change value) .mapping lasting
      | error failure => cases taken
  | bind next =>
      cases result with
      | ok value =>
          cases taken
          exact heeds_call (.continuing next value) .continuing lasting
      | error failure => cases taken
  | handle handler =>
      cases result with
      | ok value => cases taken
      | error failure =>
          cases taken
          exact heeds_call (.handling handler failure) .continuing lasting
  | redeem handler next =>
      cases result with
      | ok value =>
          cases taken
          exact heeds_call (.continuing next value) .continuing lasting
      | error failure =>
          cases taken
          exact heeds_call (.handling handler failure) .continuing lasting

theorem heeds_feed (lasting : ∀ frame ∈ pending.toList, frame.isRestore = false) (result : Result) :
    HeedsNext last? token host (.feed ⟨.step, pending, .uncancelable⟩ result .bottom) := by
  have found := Standing.leads_frameFor pending result token
  simp only [HeedsNext, steps, Machine.next, Loop.feed]
  split at found
  · rename_i below popped
    rw [popped]
    exact ⟨trivial, .left⟩
  · rename_i frame below popped
    obtain ⟨call, called, _⟩ := found
    have among := frameFor_subset popped
    simp only [popped, Option.bind_some, called]
    refine ⟨⟨trivial, trivial⟩, heeds_meet (lasting frame (among (.head _))) called ?_⟩
    exact fun other member => lasting other (among (.tail _ member))

theorem heeds_answer {call : Call Memory} {current : Token} {site : Site Memory}
    {caller : Caller Memory call.form .plan} (serves : caller.Serves pending site)
    (lasting : ∀ frame ∈ pending.toList, frame.isRestore = false) {answer : Answer Memory call.form}
    (may : call.May (.answered answer)) :
    HeedsNext (some (.called call current)) token host
      (.code (.done answer) (.push caller .bottom)) := by
  refine ⟨⟨⟨call, current, rfl, may⟩, trivial⟩, ?_⟩
  show (caller.answer answer .bottom host).focus.Heeds _
  clear may
  generalize call.form = form at caller answer serves
  cases serves <;> cases answer <;> first | exact .iterating lasting | exact .feeding lasting

theorem heeds_unwind {call : Call Memory} {current : Token} {site : Site Memory}
    {caller : Caller Memory call.form .plan} (serves : caller.Serves pending site)
    (lasting : ∀ frame ∈ pending.toList, frame.isRestore = false) {payload : Payload}
    (may : call.May (.panicked (host.capture payload).1)) :
    HeedsNext (some (.called call current)) token host (.unwind payload (.push caller .bottom)) := by
  have replies : (Happening.panicked (host.capture payload).1 : Happening Memory).RepliesTo
      (some (.called call current)) := ⟨call, current, rfl, may⟩
  clear may
  generalize same : (some (.called call current) : Option (Happening Memory)) = last? at replies ⊢
  clear same
  generalize call.form = form at caller serves
  cases serves with
  | suspended =>
      exact ⟨⟨replies, trivial, trivial⟩, heeds_call (.naming _ _) .namingSuspended lasting⟩
  | delayed =>
      exact ⟨⟨replies, trivial, trivial⟩, heeds_call (.naming _ _) .namingDelayed lasting⟩
  | namingDelayed => exact ⟨⟨replies, trivial⟩, .feeding lasting⟩
  | namingSuspended | continuing | mapping => exact ⟨⟨replies, trivial⟩, .iterating lasting⟩

theorem heeds_called {call : Call Memory} {current : Token} {site : Site Memory}
    {caller : Caller Memory call.form .plan} {inner : Focus Memory call.form}
    (serves : caller.Serves pending site)
    (lasting : ∀ frame ∈ pending.toList, frame.isRestore = false) (going : inner.isGoing = true)
    (yields : inner.Yields call.code.Ends) :
    HeedsNext (some (.called call current)) token host (inner.above (.push caller .bottom)) := by
  by_cases answers : ∃ answer, inner = .code (.done answer) .bottom
  · obtain ⟨answer, rfl⟩ := answers
    exact heeds_answer serves lasting (.answered yields.of_done)
  · by_cases panics : ∃ payload, inner = .unwind payload .bottom
    · obtain ⟨payload, rfl⟩ := panics
      exact heeds_unwind serves lasting (.panicked yields.of_unwind rfl)
    · rw [not_exists] at answers panics
      have remains := Machine.isGoing_next host going answers panics
      rw [HeedsNext, Machine.above_next _ host going, above_of_going remains,
        steps_above going answers panics]
      exact ⟨trivial, .serving lasting serves remains (yields.next remains)⟩

theorem Heeds.next {focus : Focus Memory .plan} (heeds : focus.Heeds last?) (token : Token)
    (host : Host Memory) : HeedsNext last? token host focus := by
  cases heeds with
  | iterating lasting => exact heeds_iterate lasting _
  | feeding lasting => exact heeds_feed lasting _
  | serving lasting serves going yields => exact heeds_called serves lasting going yields
  | left | halted => exact ⟨trivial, .halted⟩

theorem Heeds.replying {focus : Focus Memory .plan} (heeds : focus.Heeds last?) (token : Token)
    (hosts : List (Host Memory)) : Linked Happening.RepliesTo last? (focus.stepsOn token hosts) := by
  induction hosts generalizing focus last? with
  | nil => trivial
  | cons host hosts inductionHypothesis =>
      obtain ⟨here, later⟩ := heeds.next token host
      exact linked_append.2 ⟨here, inductionHypothesis later⟩

end Focus

end Trampoline
