import Mathlib
import Trampoline.Proofs.Delivery
import Trampoline.Proofs.Evaluator

/-!
A run does what the evaluator does.

Where a run stands, an evaluation is left: of the plan that its loop is about to look at, and then
of the frames that are pending, one after the other.  A step of the run asks what that evaluation
asks next, or gives it the next reply.  So at every moment what a run has asked is what the
evaluator asks, given the same replies, and the outcome that it tells is the evaluator's.
-/

namespace Trampoline

variable {Memory : Type}

namespace Evaluation

variable {evaluation other third : Evaluation Memory}

def outcome? (evaluation : Evaluation Memory) : Option (Outcome Value) :=
  evaluation.ending.map Ending.outcome

@[simp]
theorem after_after (before between : List (Query Memory)) (evaluation : Evaluation Memory) :
    (evaluation.after between).after before = evaluation.after (before ++ between) := by
  simp [after]

@[simp]
theorem andThen_done (outcome : Outcome Value) (token : Token) (rest : List (Reply Memory))
    (use : Ending Memory → Evaluation Memory) :
    (done outcome token rest).andThen use = use ⟨outcome, token, rest⟩ := rfl

@[simp]
theorem andThen_after (before : List (Query Memory)) (evaluation : Evaluation Memory)
    (use : Ending Memory → Evaluation Memory) :
    (evaluation.after before).andThen use = (evaluation.andThen use).after before := by
  rcases evaluation with ⟨queries, _ | ending⟩
  · rfl
  · simp [andThen, after]

theorem andThen_andThen (evaluation : Evaluation Memory)
    (first second : Ending Memory → Evaluation Memory) :
    (evaluation.andThen first).andThen second =
      evaluation.andThen fun ending => (first ending).andThen second := by
  rcases evaluation with ⟨queries, _ | ending⟩
  · rfl
  · have joined := andThen_after queries (first ending) second
    exact joined

def Same (evaluation other : Evaluation Memory) : Prop :=
  evaluation.queries = other.queries ∧ evaluation.outcome? = other.outcome?

theorem Same.refl (evaluation : Evaluation Memory) : evaluation.Same evaluation := ⟨rfl, rfl⟩

theorem Same.of_eq (equal : evaluation = other) : evaluation.Same other := equal ▸ .refl _

theorem Same.trans (first : evaluation.Same other) (second : other.Same third) :
    evaluation.Same third :=
  ⟨first.1.trans second.1, first.2.trans second.2⟩

theorem Same.after (same : evaluation.Same other) (before : List (Query Memory)) :
    (evaluation.after before).Same (other.after before) :=
  ⟨congrArg (before ++ ·) same.1, same.2⟩

end Evaluation

open Evaluation

def Site.evaluation (site : Site Memory) (token : Token) (replies : List (Reply Memory)) :
    Evaluation Memory :=
  await replies fun reply rest =>
    match site, reply with
    | .suspended _, .answered (.plan plan) | .continuing, .answered (.plan plan) =>
        plan.evaluate token rest
    | .suspended onPanic, .panicked panic | .delayed onPanic, .panicked panic =>
        Evaluator.naming onPanic panic token rest
    | .delayed _, .answered (.value value) | .mapping, .answered (.value value) =>
        done (.completed value) token rest
    | .namingSuspended, .answered (.failure failure)
    | .namingDelayed, .answered (.failure failure) => done (.failed failure) token rest
    | .switching source restore, .answered (.token other) =>
        if other = token then source.evaluate token rest
        else Evaluator.under Plan.evaluate other source restore token rest
    | .restoring result, .answered (.token other) => done (.ofResult result) other rest
    | _, .panicked panic => done (.failed (.panicked panic)) token rest
    | _, _ => {}

def settle : List (Frame Memory) → Ending Memory → Evaluation Memory
  | [], ⟨outcome, token, rest⟩ => done outcome token rest
  | frame :: pending, ending => (Evaluator.frame Plan.evaluate frame ending).andThen (settle pending)

/-- What is left to evaluate where a run stands. -/
def Standing.evaluation (standing : Standing Memory) (replies : List (Reply Memory)) :
    Evaluation Memory :=
  match standing with
  | .iterating plan pending token => (plan.evaluate token replies).andThen (settle pending)
  | .feeding result pending token => settle pending ⟨.ofResult result, token, replies⟩
  | .calling site pending token => (site.evaluation token replies).andThen (settle pending)
  | .suspended _ pending token =>
      await replies fun reply rest =>
        match reply with
        | .crossed outcome => settle pending ⟨outcome, token, rest⟩
        | _ => {}
  | .ending outcome | .ended outcome => done outcome .uncancelable replies

namespace Plan

theorem evaluate_ofResult (result : Result) (token : Token) (replies : List (Reply Memory)) :
    (Plan.ofResult result).evaluate token replies = done (.ofResult result) token replies := by
  cases result <;> exact evaluate_eq _ token replies

theorem evaluate_suspendWith (thunk : Unit → Code Memory .plan)
    (onPanic : Panic → Code Memory .failure) (token : Token) (replies : List (Reply Memory)) :
    (Plan.suspendWith thunk onPanic).evaluate token replies =
      (Site.evaluation (.suspended onPanic) token replies).after
        [.call (.suspended thunk) token] := by
  rw [evaluate_eq, Evaluator.evaluate, ask, Site.evaluation]
  congr
  funext reply rest
  rcases reply with ⟨_ | _⟩ | _ | _ | _ <;> rfl

theorem evaluate_delayWith (thunk : Unit → Code Memory .value)
    (onPanic : Panic → Code Memory .failure) (token : Token) (replies : List (Reply Memory)) :
    (Plan.delayWith thunk onPanic).evaluate token replies =
      (Site.evaluation (.delayed onPanic) token replies).after [.call (.delayed thunk) token] := by
  rw [evaluate_eq, Evaluator.evaluate, ask, Site.evaluation]
  congr
  funext reply rest
  rcases reply with ⟨_ | _⟩ | _ | _ | _ <;> rfl

theorem evaluate_switch (source : Plan Memory) (modify : Token → Code Memory .token)
    (restore : Option (Result → Token → Token → Code Memory .token)) (token : Token)
    (replies : List (Reply Memory)) :
    (Plan.switch source modify restore).evaluate token replies =
      (Site.evaluation (.switching source restore) token replies).after
        [.call (.switching modify token) token] := by
  rw [evaluate_eq, Evaluator.evaluate, ask, Site.evaluation]
  congr
  funext reply rest
  rcases reply with ⟨_ | _⟩ | _ | _ | _ <;> rfl

theorem evaluate_of_frame? {plan source : Plan Memory} {frame : Frame Memory}
    (sequencing : plan.frame? = some (frame, source)) (token : Token)
    (replies : List (Reply Memory)) :
    plan.evaluate token replies =
      (source.evaluate token replies).andThen (Evaluator.frame Plan.evaluate frame) := by
  cases plan <;> cases sequencing <;>
    rw [evaluate_eq, Evaluator.evaluate, ← evaluate_eq]

end Plan

namespace Frame

variable {frame : Frame Memory} {result : Result} {token : Token} {call : Call Memory}

theorem evaluation_of_refused (refused : frame.call? result token = none)
    (rest : List (Reply Memory)) :
    Evaluator.frame Plan.evaluate frame ⟨.ofResult result, token, rest⟩ =
      done (.ofResult result) token rest := by
  cases frame <;> cases result <;> first | rfl | cases refused

theorem evaluation_of_taken (taken : frame.call? result token = some call)
    (replies : List (Reply Memory)) :
    Evaluator.frame Plan.evaluate frame ⟨.ofResult result, token, replies⟩ =
      ((frame.site result).evaluation token replies).after [.call call token] := by
  cases frame <;> cases result <;> cases taken
  all_goals
    apply congrArg (Evaluation.after _)
    apply congrArg (await replies)
    funext reply rest
    rcases reply with ⟨_ | _⟩ | _ | _ | _ <;> rfl

theorem evaluation_canceled (frame : Frame Memory) (token : Token) (rest : List (Reply Memory)) :
    Evaluator.frame Plan.evaluate frame ⟨.canceled, token, rest⟩ = done .canceled token rest := by
  cases frame <;> rfl

end Frame

/-- Code that names a panic is called where it can be for a plan or for a value. -/
theorem Evaluator.naming_eq (site : Site Memory)
    (naming : site = .namingSuspended ∨ site = .namingDelayed)
    (onPanic : Panic → Code Memory .failure) (panic : Panic) (token : Token)
    (replies : List (Reply Memory)) :
    Evaluator.naming onPanic panic token replies =
      (site.evaluation token replies).after [.call (.naming onPanic panic) token] := by
  apply congrArg (Evaluation.after _)
  apply congrArg (await replies)
  funext reply rest
  rcases naming with rfl | rfl <;> rcases reply with ⟨_ | _⟩ | _ | _ | _ <;> rfl

theorem settle_canceled (pending : List (Frame Memory)) (token : Token)
    (rest : List (Reply Memory)) :
    settle pending ⟨.canceled, token, rest⟩ = done .canceled token rest := by
  induction pending with
  | nil => rfl
  | cons frame pending inductionHypothesis =>
      rw [settle, frame.evaluation_canceled, andThen_done, inductionHypothesis]

namespace Standing

variable {standing next goal : Standing Memory} {happenings : List (Happening Memory)} {count : Nat}

theorem evaluation_after (outcome : Outcome Value) (pending : List (Frame Memory)) (token : Token)
    (replies : List (Reply Memory)) :
    (settle pending ⟨outcome, token, replies⟩).Same
      ((after outcome pending token).evaluation replies) := by
  cases outcome with
  | completed value =>
      rw [after, evaluation, Plan.evaluate_eq]
      exact .refl _
  | failed failure =>
      rw [after, evaluation, Plan.evaluate_eq]
      exact .refl _
  | canceled =>
      rw [settle_canceled]
      exact ⟨rfl, rfl⟩

/-- A step asks what the evaluation asks next, and gives it the next reply. -/
theorem Step.evaluation (step : Step standing happenings next)
    (uncanceled : ∀ token, .looked token true ∉ happenings) (more : List (Reply Memory)) :
    (standing.evaluation (replies happenings ++ more)).Same
      ((next.evaluation more).after (queries happenings)) := by
  cases step with
  | @stop plan pending token => exact absurd (.head _) (uncanceled token)
  | pure =>
      rw [Standing.evaluation, Plan.evaluate_eq]
      exact .refl _
  | raise =>
      rw [Standing.evaluation, Plan.evaluate_eq]
      exact .refl _
  | suspend =>
      rw [Standing.evaluation, Plan.evaluate_suspendWith, andThen_after]
      exact .refl _
  | delay =>
      rw [Standing.evaluation, Plan.evaluate_delayWith, andThen_after]
      exact .refl _
  | switch =>
      rw [Standing.evaluation, Plan.evaluate_switch, andThen_after]
      exact .refl _
  | reach =>
      rw [Standing.evaluation, Plan.evaluate_eq, Evaluator.evaluate, Evaluator.boundary, ask,
        andThen_after]
      apply Same.after
      cases more with
      | nil => exact .refl _
      | cons reply rest => cases reply <;> exact .refl _
  | descend sequencing =>
      rw [Standing.evaluation, Plan.evaluate_of_frame? sequencing, andThen_andThen]
      exact .refl _
  | hop =>
      rw [Standing.evaluation, Standing.evaluation, Plan.evaluate_eq, Plan.evaluate_eq]
      exact .refl _
  | lookUp =>
      rw [Standing.evaluation, Plan.evaluate_eq, Evaluator.evaluate, ask, andThen_after]
      exact .refl _
  | skip refused =>
      rw [Standing.evaluation, settle, Frame.evaluation_of_refused refused]
      exact .refl _
  | meet taken =>
      rw [Standing.evaluation, settle, Frame.evaluation_of_taken taken, andThen_after]
      exact .refl _
  | conclude => exact ⟨rfl, rfl⟩
  | @sameToken source restore pending token =>
      have kept : (Site.switching source restore).evaluation token
          (.answered (.token token) :: more) = source.evaluate token more := if_pos rfl
      rw [Standing.evaluation, queries]
      exact .of_eq (congrArg (·.andThen (settle pending)) kept)
  | @otherToken source pending token other different =>
      have changed : (Site.switching source none).evaluation token
          (.answered (.token other) :: more) = source.evaluate other more := if_neg different
      exact .of_eq (congrArg (·.andThen (settle pending)) changed)
  | @scopedToken source restore pending token other different =>
      have changed : (Site.switching source (some restore)).evaluation token
          (.answered (.token other) :: more) =
            (source.evaluate other more).andThen
              (Evaluator.frame Plan.evaluate (.restore token restore)) := if_neg different
      apply Same.of_eq
      have joined := congrArg (·.andThen (settle pending)) changed
      rw [andThen_andThen] at joined
      exact joined
  | @restoreAnswer result pending token other =>
      rw [Standing.evaluation, Standing.evaluation, Plan.evaluate_ofResult]
      exact .refl _
  | @suspendPanic onPanic pending token panic =>
      have named := Evaluator.naming_eq .namingSuspended (.inl rfl) onPanic panic token more
      have joined := congrArg (·.andThen (settle pending)) named
      rw [andThen_after] at joined
      exact .of_eq joined
  | @delayPanic onPanic pending token panic =>
      have named := Evaluator.naming_eq .namingDelayed (.inr rfl) onPanic panic token more
      have joined := congrArg (·.andThen (settle pending)) named
      rw [andThen_after] at joined
      exact .of_eq joined
  | cross => exact evaluation_after ..
  | @panic site pending token panic raises =>
      rw [Standing.evaluation, Standing.evaluation, Plan.evaluate_eq]
      cases site <;> first | exact .refl _ | cases raises
  | mapAnswer =>
      rw [Standing.evaluation, Standing.evaluation, Plan.evaluate_eq]
      exact .refl _
  | nameSuspendedAnswer =>
      rw [Standing.evaluation, Standing.evaluation, Plan.evaluate_eq]
      exact .refl _
  | _ => exact .refl _

/-- What a run asks and ends with on the way is what is left to evaluate where it starts. -/
theorem Path.evaluation (path : Path count standing happenings goal)
    (uncanceled : ∀ token, .looked token true ∉ happenings) (more : List (Reply Memory)) :
    (standing.evaluation (replies happenings ++ more)).Same
      ((goal.evaluation more).after (queries happenings)) := by
  induction path generalizing more with
  | done => exact .refl _
  | @step count standing next goal happenings rest taken path inductionHypothesis =>
      have first := taken.evaluation (fun token member => uncanceled token
        (List.mem_append_left _ member)) (replies rest ++ more)
      have later := inductionHypothesis (fun token member => uncanceled token
        (List.mem_append_right _ member)) more
      rw [replies, queries, List.filterMap_append, List.filterMap_append, List.append_assoc]
      have joined := first.trans (later.after _)
      rwa [after_after] at joined

end Standing

theorem andThen_settle_nil (evaluation : Evaluation Memory) :
    evaluation.Same (evaluation.andThen (settle [])) := by
  rcases evaluation with ⟨queries, _ | ending⟩
  · exact .refl _
  · exact ⟨(List.append_nil queries).symm, rfl⟩

theorem Tracked.evaluation {history : List (Record Memory)} {situation : Situation Memory}
    (tracked : Tracked history situation) {run : Nat} {plan : Plan Memory} {token : Token}
    {receiver : Receiver Memory}
    (started : (course run history).head? = some (.started plan {} token receiver))
    (uncanceled : ∀ token, .looked token true ∉ course run history) :
    ∃ standing, situation.standings run = [standing] ∧
      tellings run history = standing.outcome?.toList ∧
      (plan.evaluate token (replies (course run history))).Same
        ((standing.evaluation []).after (queries (course run history))) := by
  obtain ⟨happenings, standing, listed, ⟨count, path⟩, single, told⟩ :=
    tracked.leads_of_started started
  refine ⟨standing, single, told, ?_⟩
  rw [listed] at uncanceled ⊢
  have same := path.evaluation (fun token member => uncanceled token (.tail _ member)) []
  rw [List.append_nil, Standing.evaluation] at same
  exact (andThen_settle_nil _).trans same

theorem Chronicle.Resumable.suspended {chronicle : Chronicle Memory} {run : Nat}
    (resumable : chronicle.Resumable run) {standing : Standing Memory}
    (single : chronicle.pool.situation.standings run = [standing]) :
    ∃ epoch pending token, standing = .suspended epoch pending token := by
  obtain ⟨reach, _, same⟩ := resumable.stands single
  exact ⟨_, _, _, same⟩

/-- What a run asks is what the evaluator asks, given the same replies, and the outcome that it
tells is the evaluator's; and while nothing is open for a run, it has come as far as the evaluator
does. -/
theorem refines_evaluator (memory : Memory) (codes : List (Option String × Code Memory .unit))
    (schedule : List Nat) (run : Nat) (plan : Plan Memory) (token : Token)
    (receiver : Receiver Memory)
    (started : (course run ((Pool.opening memory codes).chronicle schedule).history).head? =
      some (.started plan {} token receiver))
    (uncanceled : ∀ token,
      .looked token true ∉ course run ((Pool.opening memory codes).chronicle schedule).history) :
    let chronicle := (Pool.opening memory codes).chronicle schedule
    let happenings := course run chronicle.history
    let evaluation := plan.evaluate token (replies happenings)
    queries happenings <+: evaluation.queries ∧
      (∀ outcome, .told outcome ∈ happenings →
        evaluation.queries = queries happenings ∧ evaluation.outcome? = some outcome) ∧
      (chronicle.pool.rests run = true →
        evaluation.queries = queries happenings ∧
          ∀ outcome, evaluation.outcome? = some outcome → .told outcome ∈ happenings) ∧
      ∀ worker ∈ chronicle.pool.workers, ∀ happening query,
        let machine := worker.machine chronicle.pool.host
        (run, happening) ∈ machine.happenings → happening.query? = some query →
          machine.Runs run query := by
  intro chronicle happenings evaluation
  have tracked : Tracked chronicle.history chronicle.pool.situation :=
    Pool.tracked_chronicle memory codes schedule
  have ledger : Ledger chronicle.history chronicle.pool.situation :=
    Pool.ledger_chronicle memory codes schedule
  obtain ⟨standing, single, told, asked, outcomes⟩ := tracked.evaluation started uncanceled
  refine ⟨⟨_, asked.symm⟩, ?_, ?_, fun _ _ _ _ => Machine.runs_query⟩
  · intro outcome member
    rw [← mem_tellings_iff, told, Option.mem_toList] at member
    obtain rfl := Standing.eq_ended member
    exact ⟨asked.trans (List.append_nil _), outcomes⟩
  · intro rests
    obtain ⟨entry, found⟩ := tracked.entry_of_singleton single
    rcases Chronicle.delivered_or_resumable tracked ledger rests found with delivered | resumable
    · have once := delivered.once
      rw [told] at once
      cases ended : standing.outcome? with
      | none => simp [ended] at once
      | some first =>
          obtain rfl := Standing.eq_ended ended
          refine ⟨asked.trans (List.append_nil _), ?_⟩
          intro outcome evaluated
          rw [← mem_tellings_iff, told, ended, Option.mem_toList]
          exact outcomes.symm.trans evaluated
    · obtain ⟨epoch, pending, current, rfl⟩ := resumable.suspended single
      refine ⟨asked.trans (List.append_nil _), ?_⟩
      intro outcome evaluated
      cases outcomes.symm.trans evaluated

/-- A plan that maps a value is evaluated as its run goes, up to the outcome. -/
theorem refines_evaluator_map :
    let plan : Plan Unit := .map (.pure (.datum (.bool true))) fun _ => Code.value (.datum .null)
    let happenings := course 0 ((Pool.opening () plan.alone).chronicle (List.replicate 10 0)).history
    happenings.head? = some (.started plan {} .uncancelable (.code fun _ => Code.unit)) ∧
      (∀ token, .looked token true ∉ happenings) ∧
      .told (.completed (.datum .null)) ∈ happenings ∧
      (plan.evaluate .uncancelable (replies happenings)).outcome? =
        some (.completed (.datum .null)) := by
  intro plan happenings
  have listed : course 0 ((Pool.opening () (Plan.alone (.map (.pure (.datum (.bool true)))
      fun _ => Code.value (.datum .null)))).chronicle (List.replicate 10 0)).history =
        [.started (.map (.pure (.datum (.bool true))) fun _ => Code.value (.datum .null)) {}
            .uncancelable (.code fun _ => Code.unit),
          .looked .uncancelable false, .looked .uncancelable false,
          .called (.mapping (fun _ => Code.value (.datum .null)) (.datum (.bool true)))
            .uncancelable,
          .answered (.value (.datum .null)), .looked .uncancelable false,
          .told (.completed (.datum .null))] := by
    cbv
  have started : happenings.head? =
      some (.started plan {} .uncancelable (.code fun _ => Code.unit)) := congrArg List.head? listed
  have uncanceled : ∀ token, .looked token true ∉ happenings := by
    intro token member
    rw [show happenings = _ from listed] at member
    simp at member
  have told : .told (.completed (.datum .null)) ∈ happenings := by
    rw [show happenings = _ from listed]
    simp
  have refines := refines_evaluator () plan.alone (List.replicate 10 0) 0 plan .uncancelable
    (.code fun _ => Code.unit) started uncanceled
  exact ⟨started, uncanceled, told, (refines.2.1 _ told).2⟩

end Trampoline
