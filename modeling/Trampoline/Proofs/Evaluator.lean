import Trampoline.Proofs.Dialogue

/-!
A recursive evaluator for plans.

The evaluator gives the outcome of the source of a plan to what encloses it, and threads the active
token; it has no frames, boundaries or threads.  What it asks of code, and of whoever completes a
boundary, is answered from a list of replies.  Where the replies run out the evaluation stops, with
all that it has asked so far.
-/

namespace Trampoline

variable {Memory : Type}

/-- How an evaluation ends, and the replies that it has not used. -/
structure Ending (Memory : Type) where
  outcome : Outcome Value
  token : Token
  rest : List (Reply Memory)

structure Evaluation (Memory : Type) where
  queries : List (Query Memory) := []
  /-- Missing if the replies run out. -/
  ending : Option (Ending Memory) := none

namespace Evaluation

def done (outcome : Outcome Value) (token : Token) (rest : List (Reply Memory)) :
    Evaluation Memory where
  ending := some { outcome, token, rest }

def after (queries : List (Query Memory)) (evaluation : Evaluation Memory) : Evaluation Memory where
  queries := queries ++ evaluation.queries
  ending := evaluation.ending

def await (replies : List (Reply Memory))
    (use : Reply Memory → List (Reply Memory) → Evaluation Memory) : Evaluation Memory :=
  match replies with
  | [] => {}
  | reply :: rest => use reply rest

def ask (query : Query Memory) (replies : List (Reply Memory))
    (use : Reply Memory → List (Reply Memory) → Evaluation Memory) : Evaluation Memory :=
  (await replies use).after [query]

def andThen (evaluation : Evaluation Memory) (use : Ending Memory → Evaluation Memory) :
    Evaluation Memory :=
  match evaluation.ending with
  | none => evaluation
  | some ending => (use ending).after evaluation.queries

end Evaluation

/-- How plans are evaluated that code answers with. -/
abbrev Evaluator (Memory : Type) := Plan Memory → Token → List (Reply Memory) → Evaluation Memory

namespace Evaluator

open Evaluation

variable (again : Evaluator Memory)

/-- Go on with the plan that code answers with; a panic of the code is a failure. -/
def plan (call : Call Memory) (token : Token) (replies : List (Reply Memory)) : Evaluation Memory :=
  ask (.call call token) replies fun reply rest =>
    match reply with
    | .answered (.plan plan) => again plan token rest
    | .panicked panic => done (.failed (.panicked panic)) token rest
    | _ => {}

def value (call : Call Memory) (token : Token) (replies : List (Reply Memory)) :
    Evaluation Memory :=
  ask (.call call token) replies fun reply rest =>
    match reply with
    | .answered (.value value) => done (.completed value) token rest
    | .panicked panic => done (.failed (.panicked panic)) token rest
    | _ => {}

def naming (onPanic : Panic → Code Memory .failure) (panic : Panic) (token : Token)
    (replies : List (Reply Memory)) : Evaluation Memory :=
  ask (.call (.naming onPanic panic) token) replies fun reply rest =>
    match reply with
    | .answered (.failure failure) => done (.failed failure) token rest
    | .panicked panic => done (.failed (.panicked panic)) token rest
    | _ => {}

def boundary (registration : Registration Memory) (token : Token)
    (replies : List (Reply Memory)) : Evaluation Memory :=
  ask (.reach registration token) replies fun reply rest =>
    match reply with
    | .crossed outcome => done outcome token rest
    | _ => {}

def restoring (restore : Result → Token → Token → Code Memory .token) (result : Result)
    (old current : Token) (replies : List (Reply Memory)) : Evaluation Memory :=
  ask (.call (.restoring restore result old current) current) replies fun reply rest =>
    match reply with
    | .answered (.token token) => done (.ofResult result) token rest
    | .panicked panic => done (.failed (.panicked panic)) current rest
    | _ => {}

def frame (frame : Frame Memory) (ending : Ending Memory) : Evaluation Memory :=
  match frame, ending with
  | .bind next, ⟨.completed value, token, rest⟩
  | .redeem _ next, ⟨.completed value, token, rest⟩ => plan again (.continuing next value) token rest
  | .map change, ⟨.completed value, token, rest⟩ => Evaluator.value (.mapping change value) token rest
  | .handle handler, ⟨.failed failure, token, rest⟩
  | .redeem handler _, ⟨.failed failure, token, rest⟩ =>
      plan again (.handling handler failure) token rest
  | .restore old back, ⟨.completed value, token, rest⟩ =>
      restoring back (.ok value) old token rest
  | .restore old back, ⟨.failed failure, token, rest⟩ =>
      restoring back (.error failure) old token rest
  | _, ⟨outcome, token, rest⟩ => done outcome token rest

def under (other : Token) (source : Plan Memory)
    (restore : Option (Result → Token → Token → Code Memory .token)) (token : Token)
    (replies : List (Reply Memory)) : Evaluation Memory :=
  match restore with
  | some back => (again source other replies).andThen (frame again (.restore token back))
  | none => again source other replies

def evaluate : Evaluator Memory
  | .pure value, token, replies => done (.completed value) token replies
  | .raise failure, token, replies => done (.failed failure) token replies
  | .suspendWith thunk onPanic, token, replies =>
      ask (.call (.suspended thunk) token) replies fun reply rest =>
        match reply with
        | .answered (.plan plan) => again plan token rest
        | .panicked panic => naming onPanic panic token rest
        | _ => {}
  | .delayWith thunk onPanic, token, replies =>
      ask (.call (.delayed thunk) token) replies fun reply rest =>
        match reply with
        | .answered (.value value) => done (.completed value) token rest
        | .panicked panic => naming onPanic panic token rest
        | _ => {}
  | .async registration, token, replies => boundary registration token replies
  | .continueOn source context, token, replies => boundary (.hopping source context) token replies
  | .bind source next, token, replies =>
      (evaluate source token replies).andThen (frame again (.bind next))
  | .map source change, token, replies =>
      (evaluate source token replies).andThen (frame again (.map change))
  | .handle source handler, token, replies =>
      (evaluate source token replies).andThen (frame again (.handle handler))
  | .redeem source onFailure onValue, token, replies =>
      (evaluate source token replies).andThen (frame again (.redeem onFailure onValue))
  | .switch source modify restore, token, replies =>
      ask (.call (.switching modify token) token) replies fun reply rest =>
        match reply with
        | .answered (.token other) =>
            if other = token then again source token rest
            else under again other source restore token rest
        | .panicked panic => done (.failed (.panicked panic)) token rest
        | _ => {}
  | .held kept, token, replies =>
      ask (.lookUp kept) replies fun reply rest =>
        match reply with
        | .recalled plan => again plan token rest
        | _ => {}

end Evaluator

/-- Evaluate a plan.  Whatever code answers with is evaluated on the replies that are left, of which
there are fewer. -/
def Plan.evaluate (plan : Plan Memory) (token : Token) (replies : List (Reply Memory)) :
    Evaluation Memory :=
  Evaluator.evaluate (fun plan token rest =>
    if _fewer : rest.length < replies.length then plan.evaluate token rest else {}) plan token replies
termination_by replies.length

namespace Evaluation

variable {limit : Nat} {evaluation other : Evaluation Memory}

/-- Two evaluations are the same and leave no more than so many replies. -/
def Agree (limit : Nat) (evaluation other : Evaluation Memory) : Prop :=
  evaluation = other ∧ ∀ ending, evaluation.ending = some ending → ending.rest.length ≤ limit

theorem agree_stuck : Agree limit ({} : Evaluation Memory) {} := by
  constructor
  · rfl
  · intro ending ended
    cases ended

theorem agree_done {outcome : Outcome Value} {token : Token} {rest : List (Reply Memory)}
    (bounded : rest.length ≤ limit) :
    Agree limit (done outcome token rest) (done outcome token rest) := by
  constructor
  · rfl
  · intro ending ended
    cases ended
    exact bounded

theorem Agree.mono {wider : Nat} (agree : Agree limit evaluation other) (wide : limit ≤ wider) :
    Agree wider evaluation other := by
  constructor
  · exact agree.1
  · intro ending ended
    exact Nat.le_trans (agree.2 ending ended) wide

theorem Agree.ask {query : Query Memory} {replies : List (Reply Memory)}
    {use others : Reply Memory → List (Reply Memory) → Evaluation Memory}
    (agree : ∀ reply rest, replies = reply :: rest →
      Agree rest.length (use reply rest) (others reply rest)) :
    Agree replies.length (ask query replies use) (Evaluation.ask query replies others) := by
  cases replies with
  | nil => exact ⟨rfl, fun ending ended => by cases ended⟩
  | cons reply rest =>
      obtain ⟨same, bounded⟩ := agree reply rest rfl
      constructor
      · rw [Evaluation.ask, Evaluation.ask, await, await, same]
      · intro ending ended
        exact Nat.le_succ_of_le (bounded ending ended)

theorem Agree.andThen {use others : Ending Memory → Evaluation Memory}
    (agree : Agree limit evaluation other)
    (uses : ∀ ending, ending.rest.length ≤ limit → Agree limit (use ending) (others ending)) :
    Agree limit (evaluation.andThen use) (other.andThen others) := by
  obtain ⟨rfl, bounded⟩ := agree
  unfold Evaluation.andThen
  cases ended : evaluation.ending with
  | none => exact ⟨rfl, fun ending other => by rw [ended] at other; cases other⟩
  | some ending =>
      obtain ⟨same, left⟩ := uses ending (bounded ending ended)
      exact ⟨congrArg (Evaluation.after evaluation.queries) same, left⟩

end Evaluation

namespace Evaluator

open Evaluation

def AgreeBelow (limit : Nat) (again other : Evaluator Memory) : Prop :=
  ∀ plan token rest, rest.length < limit →
    Agree rest.length (again plan token rest) (other plan token rest)

variable {again other : Evaluator Memory} {limit : Nat}

theorem agree_plan (agree : AgreeBelow limit again other) {call : Call Memory} {token : Token}
    {replies : List (Reply Memory)} (bounded : replies.length ≤ limit) :
    Agree replies.length (plan again call token replies) (plan other call token replies) := by
  apply Agree.ask
  rintro reply rest rfl
  split
  · exact agree _ token rest bounded
  · exact agree_done (Nat.le_refl _)
  · exact agree_stuck

theorem agree_value {call : Call Memory} {token : Token} {replies : List (Reply Memory)} :
    Agree replies.length (value call token replies) (value call token replies) := by
  apply Agree.ask
  intro reply rest _
  split
  · exact agree_done (Nat.le_refl _)
  · exact agree_done (Nat.le_refl _)
  · exact agree_stuck

theorem agree_naming {onPanic : Panic → Code Memory .failure} {panic : Panic} {token : Token}
    {replies : List (Reply Memory)} :
    Agree replies.length (naming onPanic panic token replies)
      (naming onPanic panic token replies) := by
  apply Agree.ask
  intro reply rest _
  split
  · exact agree_done (Nat.le_refl _)
  · exact agree_done (Nat.le_refl _)
  · exact agree_stuck

theorem agree_boundary {registration : Registration Memory} {token : Token}
    {replies : List (Reply Memory)} :
    Agree replies.length (boundary registration token replies)
      (boundary registration token replies) := by
  apply Agree.ask
  intro reply rest _
  split
  · exact agree_done (Nat.le_refl _)
  · exact agree_stuck

theorem agree_restoring {restore : Result → Token → Token → Code Memory .token} {result : Result}
    {old current : Token} {replies : List (Reply Memory)} :
    Agree replies.length (restoring restore result old current replies)
      (restoring restore result old current replies) := by
  apply Agree.ask
  intro reply rest _
  split
  · exact agree_done (Nat.le_refl _)
  · exact agree_done (Nat.le_refl _)
  · exact agree_stuck

theorem agree_frame (agree : AgreeBelow limit again other) {taken : Frame Memory}
    {ending : Ending Memory} (bounded : ending.rest.length ≤ limit) :
    Agree limit (frame again taken ending) (frame other taken ending) := by
  unfold frame
  split
  · exact (agree_plan agree bounded).mono bounded
  · exact (agree_plan agree bounded).mono bounded
  · exact agree_value.mono bounded
  · exact (agree_plan agree bounded).mono bounded
  · exact (agree_plan agree bounded).mono bounded
  · exact agree_restoring.mono bounded
  · exact agree_restoring.mono bounded
  · exact agree_done bounded

theorem agree_under (agree : AgreeBelow limit again other) {target token : Token}
    {source : Plan Memory} {restore : Option (Result → Token → Token → Code Memory .token)}
    {replies : List (Reply Memory)} (fewer : replies.length < limit) :
    Agree replies.length (under again target source restore token replies)
      (under other target source restore token replies) := by
  have sources := agree source target replies fewer
  cases restore with
  | none => exact sources
  | some back =>
      apply sources.andThen
      intro ending bounded
      have below : AgreeBelow replies.length again other := fun plan token rest shorter =>
        agree plan token rest (Nat.lt_trans shorter fewer)
      exact agree_frame below bounded

theorem agree_evaluate {replies : List (Reply Memory)} (agree : AgreeBelow replies.length again other)
    (plan : Plan Memory) (token : Token) :
    Agree replies.length (evaluate again plan token replies) (evaluate other plan token replies) := by
  fun_induction evaluate again plan token replies with
  | case1 | case2 => exact agree_done (Nat.le_refl _)
  | case3 thunk onPanic token replies =>
      apply Agree.ask
      rintro reply rest rfl
      split
      · exact agree _ token rest (Nat.lt_succ_self _)
      · exact agree_naming
      · exact agree_stuck
  | case4 thunk onPanic token replies =>
      apply Agree.ask
      rintro reply rest rfl
      split
      · exact agree_done (Nat.le_refl _)
      · exact agree_naming
      · exact agree_stuck
  | case5 | case6 => exact agree_boundary
  | case7 _ _ _ _ inductionHypothesis | case8 _ _ _ _ inductionHypothesis
  | case9 _ _ _ _ inductionHypothesis | case10 _ _ _ _ _ inductionHypothesis =>
      exact (inductionHypothesis agree).andThen fun ending bounded => agree_frame agree bounded
  | case11 source modify restore token replies =>
      apply Agree.ask
      rintro reply rest rfl
      split
      · split
        · exact agree source token rest (Nat.lt_succ_self _)
        · exact agree_under agree (Nat.lt_succ_self _)
      · exact agree_done (Nat.le_refl _)
      · exact agree_stuck
  | case12 kept token replies =>
      apply Agree.ask
      rintro reply rest rfl
      split
      · exact agree _ token rest (Nat.lt_succ_self _)
      · exact agree_stuck

end Evaluator

namespace Plan

theorem agree_evaluate (plan : Plan Memory) (token : Token) (replies : List (Reply Memory)) :
    Evaluation.Agree replies.length (plan.evaluate token replies)
      (Evaluator.evaluate Plan.evaluate plan token replies) := by
  induction length : replies.length using Nat.strongRecOn generalizing plan token replies with
  | ind limit inductionHypothesis =>
      subst length
      rw [evaluate]
      apply Evaluator.agree_evaluate
      intro plan token rest fewer
      dsimp only
      rw [dif_pos fewer]
      have bounded := (inductionHypothesis rest.length fewer plan token rest rfl).2
      exact ⟨rfl, bounded⟩

/-- The evaluator is recursive: it evaluates what code answers with. -/
theorem evaluate_eq (plan : Plan Memory) (token : Token) (replies : List (Reply Memory)) :
    plan.evaluate token replies = Evaluator.evaluate Plan.evaluate plan token replies :=
  (agree_evaluate plan token replies).1

end Plan

end Trampoline
