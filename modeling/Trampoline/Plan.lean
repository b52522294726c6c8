import Trampoline.Request
import Trampoline.Stack

/-!
Plans and the code they are made of.

A plan describes a computation; building one does nothing.  What the run loop calls on the way
(thunks, continuations, handlers, registrations, token changes) is code: a tree of requests to the
host, with a branch for each reply, that ends in an answer or in a panic.  Code may also start runs,
complete boundaries, hand tasks to contexts and so on, and then goes on once that has returned.

Code cannot hold a plan it was given, so a plan that is left by `Code.step` stays with the
host and `Plan.held` refers to it.
-/

namespace Trampoline

inductive Form where
  | value
  | result
  | plan
  | failure
  | token
  | unit
  deriving DecidableEq, Repr

variable (Memory : Type)

mutual

/-- A description of a computation. -/
inductive Plan : Type
  | pure (value : Value)
  | raise (failure : Failure)
  /-- A plan found by running a thunk; `onPanic` names the failure if the thunk panics. -/
  | suspendWith (thunk : Unit → Code .plan) (onPanic : Panic → Code .failure)
  /-- A value found by running a thunk. -/
  | delayWith (thunk : Unit → Code .value) (onPanic : Panic → Code .failure)
  | async (registration : Registration)
  | bind (source : Plan) (next : Value → Code .plan)
  | map (source : Plan) (change : Value → Code .value)
  | handle (source : Plan) (handler : Failure → Code .plan)
  | redeem (source : Plan) (onFailure : Failure → Code .plan) (onValue : Value → Code .plan)
  | continueOn (source : Plan) (context : Context)
  /-- Run the source under the token that `modify` makes of the active one; `restore`, if given,
  names the token to go on with. -/
  | switch (source : Plan) (modify : Token → Code .token)
      (restore : Option (Result → Token → Token → Code .token))
  | held (kept : Nat)

/-- What arranges for an asynchronous boundary to be completed. -/
inductive Registration : Type
  | calling (register : Token → Completer → Code .unit)
  /-- Run the source on a context; its outcome completes the boundary. -/
  | hopping (source : Plan) (context : Context)
  /-- Run a plan with the frames that were pending on it; its outcome completes the boundary. -/
  | finishing (head : Plan) (pending : Stack Frame)

inductive Frame : Type
  | bind (next : Value → Code .plan)
  | map (change : Value → Code .value)
  | handle (handler : Failure → Code .plan)
  | redeem (onFailure : Failure → Code .plan) (onValue : Value → Code .plan)
  | restore (old : Token) (restore : Result → Token → Token → Code .token)

inductive Context : Type
  | immediate
  | spawner (spawner : Nat) (label : String)
  | custom (name : String) (schedule : Nat → Code .unit)

inductive Answer : Form → Type
  | value (value : Value) : Answer .value
  | result (result : Result) : Answer .result
  | plan (plan : Plan) : Answer .plan
  | failure (failure : Failure) : Answer .failure
  | token (token : Token) : Answer .token
  | unit : Answer .unit

/-- A tree of requests that ends in an answer of the given form or in a panic. -/
inductive Code : Form → Type
  | done {form : Form} (answer : Answer form) : Code form
  | ask {form : Form} (request : Request Memory) (next : request.Reply → Code form) : Code form
  /-- Panic; unless `silent`, the panic is reported where no guard is open. -/
  | panic {form : Form} (payload : Payload) (silent : Bool) : Code form
  | guard {form : Form} (body : Unit → Code .value) (next : Except Panic Value → Code form) :
      Code form
  /-- Run code on a new thread and wait for it; the reply is missing if the code panicked. -/
  | onThread {form : Form} (name : Option String) (body : Unit → Code .value)
      (next : Option Value → Code form) : Code form
  | run {form : Form} (plan : Plan) (token : Token) (receive : Outcome Value → Code .unit)
      (next : Unit → Code form) : Code form
  /-- Run a plan; the reply is missing if its run has not ended when starting it returns. -/
  | runSync {form : Form} (plan : Plan) (token : Token)
      (next : Option (Outcome Value) → Code form) : Code form
  /-- Run a plan up to where it needs a token; the reply says where the rest is held. -/
  | step {form : Form} (plan : Plan) (next : Nat → Code form) : Code form
  | complete {form : Form} (completer : Completer) (result : Result)
      (next : Unit → Code form) : Code form
  | execute {form : Form} (context : Context) (task : Unit → Code .unit)
      (next : Unit → Code form) : Code form
  /-- Run a task that a context was given; a task runs once. -/
  | runTask {form : Form} (task : Nat) (next : Unit → Code form) : Code form

end

variable {Memory : Type}

namespace Code

def andThen {form other : Form} : Code Memory form → (Answer Memory form → Code Memory other) →
    Code Memory other
  | .done answer, continuation => continuation answer
  | .ask request next, continuation =>
      .ask request fun reply => (next reply).andThen continuation
  | .panic payload silent, _ => .panic payload silent
  | .guard body next, continuation => .guard body fun caught => (next caught).andThen continuation
  | .onThread name body next, continuation =>
      .onThread name body fun value => (next value).andThen continuation
  | .run plan token receive next, continuation =>
      .run plan token receive fun reply => (next reply).andThen continuation
  | .runSync plan token next, continuation =>
      .runSync plan token fun outcome => (next outcome).andThen continuation
  | .step plan next, continuation => .step plan fun kept => (next kept).andThen continuation
  | .complete completer result next, continuation =>
      .complete completer result fun reply => (next reply).andThen continuation
  | .execute context task next, continuation =>
      .execute context task fun reply => (next reply).andThen continuation
  | .runTask task next, continuation =>
      .runTask task fun reply => (next reply).andThen continuation

section Induction

variable {form : Form} {motive : Code Memory form → Prop}
  (done : ∀ answer, motive (.done answer))
  (panic : ∀ payload silent, motive (.panic payload silent))
  (ask : ∀ request next, (∀ reply, motive (next reply)) → motive (.ask request next))
  (guard : ∀ body next, (∀ caught, motive (next caught)) → motive (.guard body next))
  (onThread : ∀ name body next, (∀ value, motive (next value)) →
    motive (.onThread name body next))
  (run : ∀ plan token receive next, (∀ reply, motive (next reply)) →
    motive (.run plan token receive next))
  (runSync : ∀ plan token next, (∀ outcome, motive (next outcome)) →
    motive (.runSync plan token next))
  (step : ∀ plan next, (∀ kept, motive (next kept)) → motive (.step plan next))
  (complete : ∀ completer result next, (∀ reply, motive (next reply)) →
    motive (.complete completer result next))
  (execute : ∀ context task next, (∀ reply, motive (next reply)) →
    motive (.execute context task next))
  (runTask : ∀ task next, (∀ reply, motive (next reply)) → motive (.runTask task next))

include done panic ask guard onThread run runSync step complete execute runTask

/-- Induction along a piece of code, whatever the replies. -/
@[elab_as_elim]
theorem induction : (code : Code Memory form) → motive code
  | .done answer => done answer
  | .panic payload silent => panic payload silent
  | .ask request next => ask request next fun reply => induction (next reply)
  | .guard body next => guard body next fun caught => induction (next caught)
  | .onThread name body next => onThread name body next fun value => induction (next value)
  | .run plan token receive next => run plan token receive next fun reply => induction (next reply)
  | .runSync plan token next => runSync plan token next fun outcome => induction (next outcome)
  | .step plan next => step plan next fun kept => induction (next kept)
  | .complete completer result next =>
      complete completer result next fun reply => induction (next reply)
  | .execute context task next => execute context task next fun reply => induction (next reply)
  | .runTask task next => runTask task next fun reply => induction (next reply)

end Induction

@[simp]
theorem andThen_done {form : Form} (code : Code Memory form) : code.andThen .done = code := by
  induction code using Code.induction with
  | done | panic => rfl
  | ask _ _ rest | guard _ _ rest | onThread _ _ _ rest | run _ _ _ _ rest | runSync _ _ _ rest
  | step _ _ rest | complete _ _ _ rest | execute _ _ _ rest | runTask _ _ rest =>
      simp only [andThen, rest]

@[simp]
theorem andThen_andThen {first second third : Form}
    (left : Answer Memory first → Code Memory second)
    (right : Answer Memory second → Code Memory third) (code : Code Memory first) :
    (code.andThen left).andThen right = code.andThen fun answer => (left answer).andThen right := by
  induction code using Code.induction with
  | done | panic => rfl
  | ask _ _ rest | guard _ _ rest | onThread _ _ _ rest | run _ _ _ _ rest | runSync _ _ _ rest
  | step _ _ rest | complete _ _ _ rest | execute _ _ _ rest | runTask _ _ rest =>
      simp only [andThen, rest]

end Code

namespace Frame

def acceptsValue : Frame Memory → Bool
  | .handle _ => false
  | _ => true

def acceptsFailure : Frame Memory → Bool
  | .handle _ | .redeem _ _ | .restore _ _ => true
  | _ => false

end Frame

end Trampoline
