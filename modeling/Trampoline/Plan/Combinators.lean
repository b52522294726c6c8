import Trampoline.Plan

/-!
Plans made of other plans.

Each combinator is a node or two of the description: recovering with a value or another failure is
recovering with a plan, an attempt folds both results into a value, and an uncancelable plan
runs under the uncancelable token and gives the surrounding one back.
-/

namespace Trampoline

variable {Memory : Type}

namespace Code

def value {Memory : Type} (value : Value) : Code Memory .value := .done (.value value)

def plan {Memory : Type} (plan : Plan Memory) : Code Memory .plan := .done (.plan plan)

def unit {Memory : Type} : Code Memory .unit := .done .unit

def panicked (panic : Panic) : Code Memory .failure := .done (.failure (.panicked panic))

end Code

namespace Plan

def unit : Plan Memory := .pure (.datum .null)

def ofResult : Result → Plan Memory
  | .ok value => .pure value
  | .error failure => .raise failure

def suspend (thunk : Unit → Code Memory .plan) : Plan Memory := .suspendWith thunk Code.panicked

def delay (thunk : Unit → Code Memory .value) : Plan Memory := .delayWith thunk Code.panicked

def tryDelay (thunk : Unit → Code Memory .result) : Plan Memory :=
  suspend fun input => (thunk input).andThen fun (.result result) => Code.plan (ofResult result)

def fromAsync (register : Token → Completer → Code Memory .unit) : Plan Memory :=
  .async (.calling register)

def never : Plan Memory := fromAsync fun _ _ => Code.unit

def thenRun (source following : Plan Memory) : Plan Memory :=
  .bind source fun _ => Code.plan following

def recover (source : Plan Memory) (handler : Failure → Code Memory .value) : Plan Memory :=
  .handle source fun failure =>
    (handler failure).andThen fun (.value value) => Code.plan (.pure value)

def mapFailure (source : Plan Memory) (change : Failure → Code Memory .failure) :
    Plan Memory :=
  .handle source fun failure =>
    (change failure).andThen fun (.failure failure) => Code.plan (.raise failure)

def fold (source : Plan Memory) (onFailure : Failure → Code Memory .value)
    (onValue : Value → Code Memory .value) : Plan Memory :=
  .redeem source
    (fun failure => (onFailure failure).andThen fun (.value value) => Code.plan (.pure value))
    (fun value => (onValue value).andThen fun (.value value) => Code.plan (.pure value))

def attempt (source : Plan Memory) : Plan Memory :=
  source.fold (fun failure => Code.value (.attempt (.error failure)))
    (fun value => Code.value (.attempt (.ok value)))

/-- Run a plan under the token that `modify` returns, without undoing that afterwards. -/
def switchTo (source : Plan Memory) (modify : Token → Code Memory .token) : Plan Memory :=
  .switch source modify none

/-- Run a plan under the token that `modify` returns, and go on with the one that `restore`
returns, which is given the result, the token before and the token at the end. -/
def switchScoped (source : Plan Memory) (modify : Token → Code Memory .token)
    (restore : Result → Token → Token → Code Memory .token) : Plan Memory :=
  .switch source modify (some restore)

/-- Run a plan without observing cancellation. -/
def uncancelable (source : Plan Memory) : Plan Memory :=
  source.switchScoped (fun _ => .done (.token .uncancelable)) (fun _ old _ => .done (.token old))

end Plan

end Trampoline
