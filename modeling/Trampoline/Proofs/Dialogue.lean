import Trampoline.Proofs.Showing

/-!
What a run asks, and what it is answered.

A run asks code for an answer, and whoever completes a boundary for an outcome; between the two
nothing else happens to it.  What counts as asked here is run in the same move, while the token
is active that goes with it.
-/

namespace Trampoline

variable {Memory : Type} {last : Form}

/-- What is asked while a token is active: code is called, a boundary is reached, or a held plan is
looked up. -/
inductive Query (Memory : Type) where
  | call (call : Call Memory) (token : Token)
  | reach (registration : Registration Memory) (token : Token)
  | lookUp (kept : Nat)

inductive Reply (Memory : Type) where
  | answered {form : Form} (answer : Answer Memory form)
  | panicked (panic : Panic)
  | crossed (outcome : Outcome Value)
  | recalled (plan : Plan Memory)

def Happening.query? : Happening Memory → Option (Query Memory)
  | .called call token => some (.call call token)
  | .reached _ registration token _ => some (.reach registration token)
  | .recalled kept _ => some (.lookUp kept)
  | _ => none

def Happening.reply? : Happening Memory → Option (Reply Memory)
  | .answered answer => some (.answered answer)
  | .panicked panic => some (.panicked panic)
  | .crossed _ outcome => some (.crossed outcome)
  | .recalled _ plan => some (.recalled plan)
  | _ => none

def queries (happenings : List (Happening Memory)) : List (Query Memory) :=
  happenings.filterMap Happening.query?

def replies (happenings : List (Happening Memory)) : List (Reply Memory) :=
  happenings.filterMap Happening.reply?

def Caller.token? {form rest : Form} : Caller Memory form rest → Option Token
  | .suspended loop _ | .delayed loop _ | .namingSuspended loop | .namingDelayed loop
  | .continuing loop | .mapping loop | .switching loop _ _ | .restoring loop _ => some loop.token
  | _ => none

/-- The next move of a machine runs the code of a query, while the token of the query is active. -/
def Machine.Runs (machine : Machine Memory last) (run : Nat) : Query Memory → Prop
  | .call call token =>
      ∃ (rest : Form) (caller : Caller Memory call.form rest) (callers : Callers Memory last rest),
        caller.token? = some token ∧ machine.next.focus = .code call.code (.push caller callers)
  | .reach registration token =>
      ∃ epoch callers host, machine.next =
        registration.call token ⟨run, epoch⟩ (.push (.registering run epoch token) callers) host
  | .lookUp kept =>
      ∃ (form : Form) (loop : Loop Memory form) (callers : Callers Memory last form),
        machine.next.focus = .iterate loop (machine.host.held kept) callers

theorem Caller.Waits.token?_eq {form rest : Form} {caller : Caller Memory form rest} {run : Nat}
    {token : Token} (waits : caller.Waits run token) : caller.token? = some token := by
  obtain ⟨loop, here, _, rfl⟩ := waits
  cases caller <;> cases here <;> rfl

theorem Machine.runs_query {machine : Machine Memory last} {run : Nat}
    {happening : Happening Memory} {query : Query Memory}
    (happens : (run, happening) ∈ machine.happenings) (asks : happening.query? = some query) :
    machine.Runs run query := by
  have shown := shows_of_old happens (by rintro _ _ _ _ rfl; cases asks)
  cases happening with
  | called call token =>
      cases asks
      obtain ⟨rest, caller, callers, goes, waits⟩ := next_of_called shown
      exact ⟨rest, caller, callers, waits.token?_eq, goes⟩
  | reached epoch registration token pending =>
      cases asks
      obtain ⟨callers, between, goes⟩ := next_of_reached shown
      exact ⟨_, callers, between, goes⟩
  | recalled kept plan =>
      cases asks
      obtain ⟨focus, host⟩ := machine
      cases shown with
      | recalls live => exact ⟨_, _, _, congrArg Machine.focus (if_neg live)⟩
  | _ => cases asks

end Trampoline
