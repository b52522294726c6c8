import Trampoline.Datum
import Trampoline.Settings.Variables

/-!
Scripts: plans, the actions of their code, and whole sessions, written as data.

An expression describes a plan, actions say what its code does, and a session is a list of steps
that set names, run plans and look at what has become of them.
-/

namespace Trampoline.Script

inductive TokenName where
  | uncancelable
  /-- The token a registration or a change of token is given. -/
  | active
  /-- The token before a change, where it is undone. -/
  | old
  /-- The token at the end of a plan, where a change is undone. -/
  | current
  | named (name : String)
  | fresh (name : String)
  /-- A new child of the active token. -/
  | child (name : String)
  | panicking (message : String)

inductive FailureKind where
  | message
  | app
  | other
  | panic
  | internal
  /-- The failure in scope. -/
  | same

/-- A failure to build: in its text each pair of braces stands for what is at hand. -/
structure FailureSpec where
  kind : FailureKind := .message
  text : String := ""

inductive ResultSpec where
  | ok (value : Datum)
  /-- Succeed with what is at hand. -/
  | okIt
  | error (failure : FailureSpec)

inductive OutcomeSpec where
  | completed (value : Int)
  | errored (failure : FailureSpec)
  | canceled

mutual

inductive Action where
  | add (amount : Datum)
  | mul (factor : Datum)
  | addIndex
  | const (value : Datum)
  | wrap
  | pair (value : Datum)
  | length
  | field (name : String)
  | log (label : Datum)
  | thread
  | panic (message : String)
  | panicOther
  | unwind (message : String)
  | ifEqual (value : Datum) (equal different : List Action)
  | cancel (token : TokenName) (reason : Option String)
  | info (token : TokenName)
  | same (left right : TokenName)
  | run (name : String) (plan : Expression) (token : Option TokenName)
  | fire (slot : String) (result : ResultSpec)
  | drop (slot : String)
  | guard (actions : List Action)
  | isGuarded
  | count
  | onThread (actions : List Action)
  /-- Complete the boundary being registered. -/
  | complete (result : ResultSpec)
  | save (slot : String)
  | showCompleter
  | unknown (name : String)

inductive Expression where
  | pure (value : Datum)
  | it
  | unit
  | raise (failure : FailureSpec)
  | result (result : ResultSpec)
  | never
  | suspend (actions : List Action) (plan : Expression)
  | suspendWith (actions : List Action) (plan : Expression) (onPanic : List Action)
      (failure : FailureSpec)
  | delay (actions : List Action)
  | delayWith (actions : List Action) (onPanic : List Action) (failure : FailureSpec)
  | tryDelay (actions : List Action) (result : ResultSpec)
  | async (actions : List Action)
  | map (source : Expression) (actions : List Action)
  | bind (source : Expression) (actions : List Action) (plan : Expression)
  | thenRun (source following : Expression)
  | recover (source : Expression) (actions : List Action)
  | handle (source : Expression) (actions : List Action) (plan : Expression)
  | mapFailure (source : Expression) (actions : List Action) (failure : FailureSpec)
  | fold (source : Expression) (onFailure onValue : List Action)
  | redeem (source : Expression) (onFailure : List Action) (afterFailure : Expression)
      (onValue : List Action) (afterValue : Expression)
  | attempt (source : Expression)
  | continueOn (source : Expression) (context : String)
  | switch (source : Expression) (actions : List Action) (token : TokenName)
  | scoped (source : Expression) (actions : List Action) (token : TokenName)
      (restoring : List Action) (back : TokenName)
  | uncancelable (source : Expression)
  /-- Wrap the plan built so far, the hole, in the link, so many times. -/
  | repeated (times : Nat) (source link : Expression)
  | hole
  /-- The body, in which `again` stands for the same with a count less by one; at zero the base. -/
  | down (times : Nat) (body base : Expression)
  | again
  | stored (name : String)
  | unknown (name : String) (source : Option Expression)

end

inductive ContextSort where
  | immediate
  | spawner
  | settingsSpawner
  /-- Keeps its tasks until they are asked for. -/
  | queue
  | dropping
  | panicking
  /-- Runs its tasks inline and has no name of its own. -/
  | plain

/-- What follows a guard at the top of a session. -/
inductive GuardEnd where
  | recover
  | result

structure PartialSettings where
  capacity : Option Nat := none
  label : Option String := none

inductive Step where
  | token (name : String)
  | uncancelable (name : String)
  | alias (token : TokenName) (name : String)
  | child (token : TokenName) (name : String)
  | chain (token : TokenName) (count : Nat) (name : String)
  | info (token : TokenName)
  | cancel (token : TokenName) (reason : Option String)
  | push (token child : TokenName)
  | pop (token : TokenName) (name : String)
  | check (token : TokenName)
  | same (left right : TokenName)
  | forget (name : String)
  | run (name : String) (plan : Expression) (token : Option TokenName) (it : Datum)
      (callbackPanic : Option String)
  | runSync (plan : Expression) (token : Option TokenName) (it : Datum)
  | acts (actions : List Action) (it : Datum)
  | fire (slot : String) (result : ResultSpec) (onThread : Bool) (it : Datum)
  | slot (slot : String)
  | dropSlot (slot : String)
  | inspect (plan : Expression) (it : Datum)
  | pureValue (plan : Expression) (it : Datum)
  | dropPlan (plan : Expression) (it : Datum)
  | step (plan : Expression) (name : String) (it : Datum)
  | context (name : String) (sort : ContextSort) (label : String)
  | contextInfo (name : String)
  | execute (name : String) (actions : List Action) (it : Datum)
  | runTask (name : String) (index : Nat) (onThread : Bool)
  | dropTask (name : String)
  | guard (actions : List Action) (it : Datum) (ending : GuardEnd)
  | panicInfo (message : String)
  | silenceGuarded
  | failure (failure : FailureSpec) (it : Datum)
  | settings (settings : PartialSettings)
  | loadVariables (given : Settings.Variables)
  | installVariables (given : Settings.Variables)
  | install (settings : PartialSettings)
  | readSettings
  | installedSettings

end Trampoline.Script
