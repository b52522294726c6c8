import Trampoline.Machine.Next
import Trampoline.Script.Build

/-!
Sessions: lists of steps that share a host, each with an answer and with what was noted meanwhile.
-/

namespace Trampoline.Script

def answering (answer : Datum) : Program .value := Code.value (.datum answer)

def bindingView (name : String) (token : Token) : Program .value :=
  bindingToken name token fun _ => viewing token answering

/-- A chain of children below a token. -/
def chaining (token : Token) (next : Token → Program .value) : Nat → Program .value
  | 0 => next token
  | count + 1 => newChild token fun child => chaining child next count

def onThreadIf (elsewhere : Bool) (body : (Datum → Program .value) → Program .value) :
    Program .value :=
  if elsewhere then
    .onThread (some "ext") (fun _ => body answering) fun value =>
      answering ((value.map Value.view).getD .null)
  else body answering

def settingsAnswer : Except Settings.Fault Settings → Datum
  | .ok settings => settings.view
  | .error fault => fault.view

def installAnswer : Except Settings.Fault Unit → Program .value
  | .ok () => answering (.text "installed")
  | .error fault => answering fault.view

def PartialSettings.complete (given : PartialSettings) : Settings :=
  let defaults : Settings := {}
  { stackCapacity := given.capacity.getD defaults.stackCapacity
    threadLabel := given.label.getD defaults.threadLabel }

def checkAnswer : Except (Option String) Unit → Datum
  | .ok () => .text "ok"
  | .error reason =>
      .record
        [("error", .text "CancellationError"),
          ("message", .text (Token.canceledMessage reason)), ("reason", .ofText? reason)]

def ContextSort.place (sort : ContextSort) (name label : String) (next : Place → Program .value) :
    Program .value :=
  match sort with
  | .immediate => next .immediate
  | .spawner => .ask .newSpawner fun spawner => next (.spawner spawner label)
  | .settingsSpawner =>
      .ask .settings fun settings => .ask .newSpawner fun spawner =>
        next (.spawner spawner settings.threadLabel)
  | .queue => next (.queue name label)
  | .dropping => next (.dropping label)
  | .panicking => next (.panicking label)
  | .plain => next .plain

def contextView (name : String) : Program .value :=
  .ask .recall fun memory =>
    let queued := ((memory.queues.find? name).map fun tasks => Datum.ofNat tasks.length).getD .null
    let place := memory.places.find? name
    let shared : List (String × Datum) :=
      [("name", .ofText? (place.map Place.name)), ("queued", queued)]
    match place with
    | some (.spawner spawner label) =>
        .ask (.spawned spawner) fun count =>
          let form :=
            "ThreadPerTask \x7b prefix: " ++ Text.quoted label ++ ", spawned: " ++
              toString count ++ " \x7d"
          answering (.record (shared ++ [("spawned", .ofNat count), ("dbg", .text form)]))
    | _ => answering (.record (shared ++ [("spawned", .null), ("dbg", .null)]))

def takingTask (name : String) (index : Nat) (next : Option Nat → Program .value) :
    Program .value :=
  recalling (fun memory => (memory.queues.find? name).getD []) fun tasks =>
    modifying (fun memory =>
        { memory with queues := memory.queues.bind name (tasks.eraseIdx index) }) fun _ =>
      next tasks[index]?

/-- What follows a guard: the changed value, or what is made of the panic. -/
def GuardEnd.view (ending : GuardEnd) (caught : Except Panic Value) : Datum :=
  match caught.map fun value => Datum.record [("mapped", value.view)], ending with
  | .ok value, .recover => value
  | .ok value, .result => .record [("ok", value)]
  | .error panic, .recover => .record [("recovered", .text panic.message)]
  | .error panic, .result => panic.details

def Step.code : Step → Program .value
  | .token name => .ask .newToken fun token => bindingView name token
  | .uncancelable name => bindingView name .uncancelable
  | .alias target name => target.resolve {} fun found => bindingView name found
  | .child target name =>
      target.resolve {} fun found => newChild found fun made => bindingView name made
  | .chain target count name =>
      target.resolve {} fun found => chaining found (bindingView name) count
  | .info target => target.resolve {} fun found => viewing found answering
  | .cancel target reason =>
      target.resolve {} fun found => .ask (.cancel found reason) fun _ => answering .null
  | .push parent target =>
      parent.resolve {} fun found => target.resolve {} fun pushed =>
        .ask (.push found pushed) fun _ => answering .null
  | .pop target name =>
      target.resolve {} fun found => .ask (.pop found) fun popped =>
        match popped with
        | none => answering .null
        | some popped => bindingView name popped
  | .check target =>
      target.resolve {} fun found => .ask (.status found) fun status =>
        answering (checkAnswer status.check)
  | .same left right =>
      left.resolve {} fun left => right.resolve {} fun right => answering (.bool (left = right))
  | .forget name =>
      recalling (fun memory => memory.tokens.binds name) fun known =>
        modifying (fun memory => { memory with tokens := memory.tokens.unbind name }) fun _ =>
          answering (.bool known)
  | .run name plan target it callbackPanic =>
      build plan { it } none fun _ plan => TokenName.resolve? target {} fun found =>
        running name plan found callbackPanic fun _ => answering .null
  | .runSync plan target it =>
      build plan { it } none fun _ plan => TokenName.resolve? target {} fun found =>
        .runSync plan found fun outcome =>
          answering ((outcome.map Outcome.view).getD (.text "abandoned"))
  | .acts actions it =>
      perform actions {} { it } fun it => answering (.record [("it", it)])
  | .fire saved result elsewhere it =>
      firing saved result { it }
        (fun completer result => onThreadIf elsewhere fun answer =>
          .complete completer result fun _ => answer .null)
        fun _ => answering (.text "no slot")
  | .slot saved =>
      recalling (fun memory => memory.slots.find? saved) fun completer =>
        match completer with
        | none => answering .null
        | some completer => showing completer fun text => answering (.text text)
  | .dropSlot saved => dropping saved fun known => answering (.bool known)
  | .dropPlan plan it => build plan { it } none fun _ _ => answering .null
  | .context name sort label =>
      sort.place name label fun place =>
        modifying (fun memory => { memory with places := memory.places.bind name place }) fun _ =>
          answering (.text place.name)
  | .contextInfo name => contextView name
  | .execute name actions it =>
      withContext name fun context =>
        .execute context (fun _ => perform actions {} { it } fun _ => Code.unit) fun _ =>
          answering .null
  | .runTask name index elsewhere =>
      takingTask name index fun task =>
        match task with
        | none => answering (.text "no task")
        | some task =>
            onThreadIf elsewhere fun answer => .runTask task fun _ => answer .null
  | .dropTask name =>
      recalling (fun memory => memory.queues.find? name) fun tasks =>
        match tasks with
        | some (_ :: rest) =>
            modifying (fun memory => { memory with queues := memory.queues.bind name rest })
              fun _ => answering (.bool true)
        | _ => answering (.bool false)
  | .guard actions it ending =>
      .guard (fun _ => perform actions {} { it } answering) fun caught =>
        answering (.record
          [("is_ok", .bool caught.isOk), ("is_panicked", .bool (!caught.isOk)),
            ("end", ending.view caught)])
  | .panicInfo message =>
      .ask .capturedPanics fun number => .ask .threadName fun thread =>
        answering (Panic.details { message, number, thread })
  | .silenceGuarded => .ask .silenceGuarded fun _ => answering .null
  | .failure spec it =>
      spec.build { it } fun built =>
        answering (.record [("error", built.view), ("dbg", .ofText? built.form?)])
  | .settings given => answering (settingsAnswer given.complete.checked)
  | .loadVariables given =>
      .ask (.settingsFrom given) fun used =>
        answering (.record [("try", settingsAnswer given.settings), ("from", used.view)])
  | .installVariables given =>
      match given.settings with
      | .ok loaded => .ask (.install loaded) installAnswer
      | .error fault => answering fault.view
  | .install given => .ask (.install given.complete) installAnswer
  | .readSettings => .ask .settings fun used => answering used.view
  | .installedSettings =>
      .ask .installedSettings fun used => answering ((used.map Settings.view).getD .null)
  | .inspect _ _ | .pureValue _ _ | .step _ _ _ => answering .null

/-- The code of a step that looks at a plan, with what it answers of the plan. -/
def Step.looking? : Step → Option (Program .plan × (Plan Memory → Datum))
  | .inspect plan it => some (build plan { it } none planned, Plan.view)
  | .pureValue plan it =>
      some
        (build plan { it } none planned,
          fun plan => (plan.value?.map fun value => .record [("some", value.view)]).getD .null)
  | .step plan name it =>
      some
        (build plan { it } none fun _ plan => .step plan fun kept =>
          modifying (fun memory => { memory with plans := memory.plans.bind name kept })
            fun _ => Code.plan (.held kept),
          Plan.view)
  | _ => none

def Step.unwound : Step → Datum
  | .acts _ _ => .text "unwound"
  | _ => .null

def Step.perform (fuel : Nat) (step : Step) (host : Host Memory) : Option (Datum × Host Memory) :=
  match step.looking? with
  | some (code, view) =>
      (host.perform fuel code).map fun (ending, host) =>
        match ending with
        | .ok (.plan plan) => (view (host.look plan), host)
        | .error _ => (step.unwound, host)
  | none =>
      (host.perform fuel step.code).map fun (ending, host) =>
        match ending with
        | .ok (.value value) => (value.view, host)
        | .error _ => (step.unwound, host)

def noted (traced : Bool) (journal : List Entry) : List Datum :=
  journal.foldl (fun later entry => (entry.view? traced).toList ++ later) []

structure Answered where
  answer : Datum
  noted : List Datum

def session (fuel : Nat) (traced : Bool) (host : Host Memory) :
    List Step → Option (List Answered)
  | [] => some []
  | step :: rest =>
      match step.perform fuel { host with journal := [] } with
      | none => none
      | some (answer, host) =>
          (session fuel traced host rest).map fun later =>
            { answer, noted := noted traced host.journal } :: later

def newHost (silencesGuarded : Bool) : Host Memory :=
  { memory := {}, silencesGuarded }

/-- What can be said of the outcome of a run over words, and of it with a word added. -/
def outcomeView (outcome : Outcome Int) (amount : Int) : Datum :=
  let words := outcome.map fun value => Value.datum (.int value)
  .record
    [("is_completed", .bool outcome.isCompleted), ("is_errored", .bool outcome.isFailed),
      ("is_canceled", .bool outcome.isCanceled), ("display", .text (outcome.shown toString)),
      ("map", (outcome.map fun value => Value.datum (wrapped (value + amount))).view),
      ("map_display",
        .text ((outcome.map fun value => "<" ++ toString value ++ ">").shown id)),
      ("into_result",
        match words.result? with
        | none => .null
        | some (.ok value) => .record [("ok", value.view)]
        | some (.error failure) => .record [("err", failure.view)]),
      ("completed", (words.value?.map Value.view).getD .null),
      ("errored", (outcome.failure?.map Failure.view).getD .null)]

def OutcomeSpec.code (spec : OutcomeSpec) (amount : Int) : Program .value :=
  match spec with
  | .completed value => answering (outcomeView (.completed value) amount)
  | .errored failure =>
      failure.build {} fun failure => answering (outcomeView (.failed failure) amount)
  | .canceled => answering (outcomeView .canceled amount)

end Trampoline.Script
