import Trampoline.Script
import Trampoline.Script.Memory

/-!
The plans and the code that scripts describe.

Everything is built in an environment: what is at hand, the failure in scope, the index of a
repetition and the meaning of `again`.  A closure captures the environment in which it was built.
Sources are built along with a plan, all other parts of it only when the code that needs them runs.
Code is written with what follows it, which takes what is at hand in the end.

A hole takes the plan that a repetition has built so far.  That plan can be used once, and it is
handed along the sources of a link only: what is built later, or below a `down`, is given none.  So
what follows the building of an expression takes what is left to fill a hole with, and the plan.
-/

namespace Trampoline.Script

structure Environment where
  it : Datum := .null
  failure : Option Failure := none
  index : Int := 0
  again : Option (Unit → Program .plan) := none

structure Scope where
  active : Option Token := none
  old : Option Token := none
  current : Option Token := none
  completer : Option Completer := none

namespace Environment

def withIt (environment : Environment) (it : Datum) : Environment := { environment with it }

def withFailure (environment : Environment) (failure : Failure) : Environment :=
  { environment with it := failure.view, failure := some failure }

def withResult (environment : Environment) : Result → Environment
  | .ok value => environment.withIt value.view
  | .error failure => environment.withFailure failure

/-- The text of what is at hand; the failure in scope comes first. -/
def text (environment : Environment) : String :=
  match environment.failure, environment.it with
  | some failure, _ => failure.shown
  | none, .text text => text
  | none, it => it.compact

end Environment

variable {form : Form}

def FailureSpec.build (spec : FailureSpec) (environment : Environment)
    (next : Failure → Program form) : Program form :=
  let text := spec.text.replace "\x7b\x7d" environment.text
  match spec.kind with
  | .message => next (.message text)
  | .app => next (.raised (.app text))
  | .other => next (.raised .other)
  | .internal => next (.internal text)
  | .same => next (environment.failure.getD (.message "no error in scope"))
  | .panic =>
      .ask .capturedPanics fun number => .ask .threadName fun thread =>
        next (.panicked { message := text, number, thread })

def ResultSpec.build (spec : ResultSpec) (environment : Environment)
    (next : Result → Program form) : Program form :=
  match spec with
  | .ok value => next (.ok (.datum value))
  | .okIt => next (.ok (.datum environment.it))
  | .error failure => failure.build environment fun failure => next (.error failure)

def TokenName.resolve (name : TokenName) (scope : Scope) (next : Token → Program form) :
    Program form :=
  match name with
  | .uncancelable => next .uncancelable
  | .active => next (scope.active.getD .uncancelable)
  | .old => next (scope.old.getD .uncancelable)
  | .current => next (scope.current.getD .uncancelable)
  | .named name =>
      recalling (fun memory => memory.tokens.find? name) fun token =>
        next (token.getD .uncancelable)
  | .fresh name => .ask .newToken fun token => bindingToken name token fun _ => next token
  | .child name =>
      newChild (scope.active.getD .uncancelable) fun token =>
        bindingToken name token fun _ => next token
  | .panicking message => .panic (.message message) false

def TokenName.resolve? (name : Option TokenName) (scope : Scope) (next : Token → Program form) :
    Program form :=
  match name with
  | none => next .uncancelable
  | some name => name.resolve scope next

def wordOf? : Datum → Option Int
  | .int value =>
      if -0x8000000000000000 ≤ value ∧ value < 0x8000000000000000 then some value else none
  | _ => none

/-- The integer of a machine word with sign that is congruent to a number. -/
def wrapped (value : Int) : Datum := .int (value.bmod Text.wordBound)

def calculating (name : String) (left right : Datum) (combine : Int → Int → Int)
    (next : Datum → Program form) : Program form :=
  match wordOf? left, wordOf? right with
  | some left, some right => next (wrapped (combine left right))
  | _, _ => .panic (.message (name ++ ": not an integer")) false

def withCompleter (scope : Scope) (next : Completer → Program form) : Program form :=
  match scope.completer with
  | some completer => next completer
  | none => .panic (.message "not in an async registration") false

/-- Build a result for the boundary a slot was saved at, if the slot is known. -/
def firing (slot : String) (result : ResultSpec) (environment : Environment)
    (known : Completer → Result → Program form) (unknown : Unit → Program form) : Program form :=
  recalling (fun memory => memory.slots.find? slot) fun completer =>
    match completer with
    | none => unknown ()
    | some completer => result.build environment fun result => known completer result

def dropping (slot : String) (next : Bool → Program form) : Program form :=
  recalling (fun memory => memory.slots.binds slot) fun known =>
    modifying (fun memory => { memory with slots := memory.slots.unbind slot }) fun _ => next known

def running (name : String) (plan : Plan Memory) (token : Token) (callbackPanic : Option String)
    (next : Unit → Program form) : Program form :=
  .run plan token
    (fun outcome =>
      .ask .threadName fun thread =>
        noting
          [("run", .text name), ("outcome", outcome.view), ("thread", .ofText? thread)] fun _ =>
            match callbackPanic with
            | none => Code.unit
            | some message => .panic (.message message) false)
    next

def taking (name : String) (next : Plan Memory → Program form) : Program form :=
  recalling (fun memory => memory.plans.find? name) fun kept =>
    match kept with
    | none => next (.raise (.message "no stored io"))
    | some kept =>
        modifying (fun memory => { memory with plans := memory.plans.unbind name }) fun _ =>
          next (.held kept)

abbrev Filling := Option (Plan Memory)

/-- A hole is filled, or raises a failure if there is nothing to fill it with. -/
def Filling.plan (filling : Filling) : Plan Memory :=
  filling.getD (.raise (.message "empty hole"))

def planned (_ : Filling) (plan : Plan Memory) : Program .plan := Code.plan plan

/-- Build links one around the other, the number of the first one given. -/
def repeating
    (link : Environment → Filling → (Filling → Plan Memory → Program form) → Program form)
    (environment : Environment) (next : Plan Memory → Program form) :
    (times number : Nat) → Plan Memory → Program form
  | 0, _, built => next built
  | times + 1, number, built =>
      link { environment with index := number } (some built) fun _ built =>
        repeating link environment next times (number + 1) built

/-- Build the body with the meaning of `again` one count lower, or at zero the base. -/
def unrolling (body base : Environment → Program .plan) (environment : Environment) :
    Nat → Program .plan
  | 0 => base { environment with index := 0 }
  | times + 1 =>
      body
        { environment with
          index := times + 1
          again := some fun _ => unrolling body base environment times }

mutual

/-- The code of actions; what follows takes what is at hand in the end. -/
def perform {form : Form} (actions : List Action) (scope : Scope) (environment : Environment)
    (next : Datum → Program form) : Program form :=
  match actions with
  | [] => next environment.it
  | action :: rest =>
      performOne action scope environment fun it =>
        perform rest scope (environment.withIt it) next

def performOne {form : Form} (action : Action) (scope : Scope) (environment : Environment)
    (next : Datum → Program form) : Program form :=
  let it := environment.it
  match action with
  | .add amount => calculating "add" it amount (· + ·) next
  | .mul factor => calculating "mul" it factor (· * ·) next
  | .addIndex => calculating "addi" it (.int environment.index) (· + ·) next
  | .const value => next value
  | .wrap => next (.list [it])
  | .pair value => next (.list [it, value])
  | .length => next (.ofNat environment.text.utf8ByteSize)
  | .field name => next (it.field name)
  | .log label => noting [("log", label), ("it", it)] fun _ => next it
  | .thread =>
      .ask .threadName fun name => noting [("thread", .ofText? name)] fun _ => next it
  | .panic message => .panic (.message message) false
  | .panicOther => .panic .other false
  | .unwind message => .panic (.message message) true
  | .ifEqual value equal different =>
      if it = value then perform equal scope environment next
      else perform different scope environment next
  | .cancel token reason =>
      token.resolve scope fun token => .ask (.cancel token reason) fun _ => next it
  | .info token =>
      token.resolve scope fun token => viewing token fun view =>
        noting [("token", view)] fun _ => next it
  | .same left right =>
      left.resolve scope fun left => right.resolve scope fun right =>
        noting [("same", .bool (left = right))] fun _ => next it
  | .run name plan token =>
      build plan environment none fun _ plan => TokenName.resolve? token scope fun token =>
        running name plan token none fun _ => next it
  | .fire slot result =>
      firing slot result environment
        (fun completer result => .complete completer result fun _ => next it) fun _ =>
          .ask (.note (.text "no slot")) fun _ => next it
  | .drop slot => dropping slot fun known => noting [("dropped", .bool known)] fun _ => next it
  | .guard actions =>
      .guard (fun _ => perform actions scope environment fun it => Code.value (.datum it))
        fun caught =>
          match caught with
          | .ok value => next (.record [("ok", value.view)])
          | .error panic => next (.record [("panicked", panic.view)])
  | .isGuarded => .ask .isGuarded fun guarded =>
      noting [("catching", .bool guarded)] fun _ => next it
  | .count => .ask .capturedPanics fun count =>
      noting [("count", .ofNat count)] fun _ => next it
  | .onThread actions =>
      .onThread (some "ext")
        (fun _ => perform actions scope environment fun it => Code.value (.datum it))
        fun value =>
          match value with
          | some value => next value.view
          | none => .ask (.note (.text "thread panicked")) fun _ => next it
  | .complete result =>
      withCompleter scope fun completer => result.build environment fun result =>
        .complete completer result fun _ => next it
  | .save slot =>
      withCompleter scope fun completer =>
        modifying (fun memory => { memory with slots := memory.slots.bind slot completer }) fun _ =>
          next it
  | .showCompleter =>
      withCompleter scope fun completer => showing completer fun text =>
        noting [("resume", .text text)] fun _ => next it
  | .unknown name => .panic (.message ("unknown action " ++ name)) false

def build {form : Form} (expression : Expression) (environment : Environment) (hole : Filling)
    (next : Filling → Plan Memory → Program form) : Program form :=
  match expression with
  | .pure value => next hole (.pure (.datum value))
  | .it => next hole (.pure (.datum environment.it))
  | .unit => next hole (Plan.unit.map fun _ => Code.value (.datum .null))
  | .raise failure => failure.build environment fun failure => next hole (.raise failure)
  | .result result => result.build environment fun result => next hole (.ofResult result)
  | .never => next hole .never
  | .suspend actions plan =>
      next hole (.suspend fun _ => perform actions {} environment fun it =>
        build plan (environment.withIt it) none planned)
  | .suspendWith actions plan onPanic failure =>
      next hole (.suspendWith
        (fun _ => perform actions {} environment fun it =>
          build plan (environment.withIt it) none planned)
        fun panic =>
          noting [("mapping", panic.view)] fun _ =>
            let mapped := { environment with it := .text panic.message, failure := none }
            perform onPanic {} mapped fun it =>
              failure.build (mapped.withIt it) fun failure => .done (.failure failure))
  | .delay actions =>
      next hole (.delay fun _ => perform actions {} environment fun it => Code.value (.datum it))
  | .delayWith actions onPanic failure =>
      next hole (.delayWith
        (fun _ => perform actions {} environment fun it => Code.value (.datum it))
        fun panic =>
          noting [("mapping", panic.view)] fun _ =>
            let mapped := { environment with it := .text panic.message, failure := none }
            perform onPanic {} mapped fun it =>
              failure.build (mapped.withIt it) fun failure => .done (.failure failure))
  | .tryDelay actions result =>
      next hole (.tryDelay fun _ => perform actions {} environment fun it =>
        result.build (environment.withIt it) fun result => .done (.result result))
  | .async actions =>
      next hole (.fromAsync fun token completer =>
        perform actions { active := some token, completer := some completer } environment fun _ =>
          Code.unit)
  | .map source actions =>
      build source environment hole fun hole source =>
        next hole (.map source fun value =>
          perform actions {} (environment.withIt value.view) fun it => Code.value (.datum it))
  | .bind source actions plan =>
      build source environment hole fun hole source =>
        next hole (.bind source fun value =>
          let bound := environment.withIt value.view
          perform actions {} bound fun it => build plan (bound.withIt it) none planned)
  | .thenRun source following =>
      build source environment hole fun hole source =>
        build following environment hole fun hole following =>
          next hole (source.thenRun following)
  | .recover source actions =>
      build source environment hole fun hole source =>
        next hole (source.recover fun failure =>
          perform actions {} (environment.withFailure failure) fun it => Code.value (.datum it))
  | .handle source actions plan =>
      build source environment hole fun hole source =>
        next hole (.handle source fun failure =>
          let failed := environment.withFailure failure
          perform actions {} failed fun it => build plan (failed.withIt it) none planned)
  | .mapFailure source actions failure =>
      build source environment hole fun hole source =>
        next hole (source.mapFailure fun error =>
          let failed := environment.withFailure error
          perform actions {} failed fun it =>
            failure.build (failed.withIt it) fun failure => .done (.failure failure))
  | .fold source onFailure onValue =>
      build source environment hole fun hole source =>
        next hole (source.fold
          (fun failure =>
            perform onFailure {} (environment.withFailure failure) fun it =>
              Code.value (.datum it))
          fun value =>
            perform onValue {} (environment.withIt value.view) fun it => Code.value (.datum it))
  | .redeem source onFailure afterFailure onValue afterValue =>
      build source environment hole fun hole source =>
        next hole (.redeem source
          (fun failure =>
            let failed := environment.withFailure failure
            perform onFailure {} failed fun it =>
              build afterFailure (failed.withIt it) none planned)
          fun value =>
            let bound := environment.withIt value.view
            perform onValue {} bound fun it => build afterValue (bound.withIt it) none planned)
  | .attempt source =>
      build source environment hole fun hole source =>
        next hole (.map source.attempt fun value => Code.value (.datum value.view))
  | .continueOn source context =>
      build source environment hole fun hole source => withContext context fun context =>
        next hole (.continueOn source context)
  | .switch source actions token =>
      build source environment hole fun hole source =>
        next hole (source.switchTo fun active =>
          let scope : Scope := { active := some active }
          perform actions scope environment fun _ =>
            token.resolve scope fun token => .done (.token token))
  | .scoped source actions token restoring back =>
      build source environment hole fun hole source =>
        next hole (source.switchScoped
          (fun active =>
            let scope : Scope := { active := some active }
            perform actions scope environment fun _ =>
              token.resolve scope fun token => .done (.token token))
          fun result old current =>
            let scope : Scope := { old := some old, current := some current }
            perform restoring scope (environment.withResult result) fun _ =>
              back.resolve scope fun token => .done (.token token))
  | .uncancelable source =>
      build source environment hole fun hole source => next hole source.uncancelable
  | .repeated times source link =>
      build source environment hole fun hole built =>
        repeating (fun environment filling next => build link environment filling next) environment
          (fun built => next hole built) times 0 built
  | .hole => next none hole.plan
  | .down times body base =>
      match times with
      | 0 => build base { environment with index := 0 } none fun _ plan => next hole plan
      | times + 1 =>
          build body
            { environment with
              index := times + 1
              again := some fun _ =>
                unrolling (fun environment => build body environment none planned)
                  (fun environment => build base environment none planned) environment times }
            none fun _ plan => next hole plan
  | .again =>
      match environment.again with
      | none => next hole (.raise (.message "rec outside down"))
      | some thunk => next hole (.suspend thunk)
  | .stored name => taking name fun plan => next hole plan
  | .unknown name none => next hole (.raise (.message ("unknown expression " ++ name)))
  | .unknown name (some source) =>
      build source environment hole fun hole _ =>
        next hole (.raise (.message ("unknown expression " ++ name)))

end

end Trampoline.Script
