import Trampoline.Plan

/-!
What can be seen of a plan without running it: the kind of its first node, the value of one that
is already a value and the failure of one that has already failed.
-/

namespace Trampoline

inductive Kind where
  | pure
  | raise
  | suspend
  | delay
  | async
  | bind
  | map
  | recover
  | continueOn
  | switch
  deriving DecidableEq, Repr

def Kind.shown : Kind → String
  | .pure => "Pure"
  | .raise => "RaiseError"
  | .suspend => "Suspend"
  | .delay => "Delay"
  | .async => "Async"
  | .bind => "Bind"
  | .map => "Map"
  | .recover => "Recover"
  | .continueOn => "ContinueOn"
  | .switch => "ContextSwitch"

namespace Plan

variable {Memory : Type}

/-- The kind of the first node.  What a host holds is the rest of a run that stopped at a
boundary. -/
def kind : Plan Memory → Kind
  | .pure _ => .pure
  | .raise _ => .raise
  | .suspendWith _ _ => .suspend
  | .delayWith _ _ => .delay
  | .async _ | .held _ => .async
  | .bind _ _ => .bind
  | .map _ _ => .map
  | .handle _ _ | .redeem _ _ _ => .recover
  | .continueOn _ _ => .continueOn
  | .switch _ _ _ => .switch

def value? : Plan Memory → Option Value
  | .pure value => some value
  | _ => none

def failure? : Plan Memory → Option Failure
  | .raise failure => some failure
  | _ => none

def form? (plan : Plan Memory) : Option String :=
  match plan with
  | .raise failure => failure.form?.map fun form => "Io(RaiseError(" ++ form ++ "))"
  | other => some ("Io(" ++ other.kind.shown ++ ")")

end Plan

end Trampoline
