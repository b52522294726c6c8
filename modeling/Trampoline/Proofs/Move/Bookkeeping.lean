import Trampoline.Proofs.Move.Panics
import Trampoline.Proofs.Slimness

/-!
Moves and what the host keeps account of: guards, reports and settings.

A thread counts the guards that are open on it: one for each caller that is a guard, down to the
caller that waits for the thread, if there is one.  Whoever is called on a thread gives the thread
back as it was, whether there is an answer or a panic.  A panic is reported as it is raised, and
nothing else is.  Apart from code that asks for settings or installs some, only a loop whose stack
overflows needs them: then two frames are pending, and the settings are fixed if they have not been.
-/

namespace Trampoline

variable {Memory : Type} {last form rest : Form}

def Caller.outer? : Caller Memory form rest → Option Thread
  | .joining outer _ | .spawning outer => some outer
  | _ => none

namespace Callers

def openGuards : {form : Form} → Callers Memory last form → Nat
  | _, .bottom => 0
  | _, .push caller callers =>
      match caller.outer?, caller.isGuard with
      | some _, _ => 0
      | none, true => callers.openGuards + 1
      | none, false => callers.openGuards

/-- Above the callers the first thread is current, and the second one once they are answered. -/
def Returns : {form : Form} → Callers Memory last form → Thread → Thread → Prop
  | _, .bottom, thread, home => thread = home
  | _, .push caller callers, thread, home =>
      match caller.outer?, caller.isGuard with
      | some outer, _ => thread.guards = 0 ∧ callers.Returns outer home
      | none, true =>
          0 < thread.guards ∧ callers.Returns { thread with guards := thread.guards - 1 } home
      | none, false => callers.Returns thread home

/-- A thread counts the guards that are open on it. -/
theorem Returns.guards_eq {callers : Callers Memory last form} {thread home : Thread}
    (returns : callers.Returns thread home) (none : home.guards = 0) :
    thread.guards = callers.openGuards := by
  induction callers generalizing thread with
  | bottom =>
      obtain rfl : thread = home := returns
      exact none
  | push caller callers inductionHypothesis =>
      unfold Returns at returns
      unfold openGuards
      split at returns
      · exact returns.1
      · obtain ⟨some, below⟩ := returns
        have counted := inductionHypothesis below
        dsimp only at counted ⊢
        omega
      · exact inductionHypothesis returns

end Callers

namespace Focus

def openGuards : Focus Memory last → Nat
  | .code _ callers | .iterate _ _ callers | .feed _ _ callers | .finish _ _ callers
  | .complete _ _ callers | .unwind _ callers => callers.openGuards
  | .halted _ => 0

def Returns (focus : Focus Memory last) (thread home : Thread) : Prop :=
  match focus with
  | .code _ callers | .iterate _ _ callers | .feed _ _ callers | .finish _ _ callers
  | .complete _ _ callers | .unwind _ callers => callers.Returns thread home
  | .halted _ => thread = home

theorem Returns.guards_eq {focus : Focus Memory last} {thread home : Thread}
    (returns : focus.Returns thread home) (none : home.guards = 0) :
    thread.guards = focus.openGuards := by
  cases focus with
  | halted ending =>
      obtain rfl : thread = home := returns
      exact none
  | _ => exact Callers.Returns.guards_eq returns none

end Focus

def Entry.report? : Entry → Option (Option String)
  | .report text => some text
  | _ => none

def Host.reports (host : Host Memory) : List (Option String) :=
  host.journal.filterMap Entry.report?

def Focus.loud : Focus Memory last → List Payload
  | .code (.panic payload false) _ => [payload]
  | _ => []

def Focus.silences : Focus Memory last → Bool
  | .code (.ask .silenceGuarded _) _ => true
  | _ => false

def Focus.isConfiguring : Focus Memory last → Bool
  | .code (.ask .settings _) _ | .code (.ask (.install _) _) _ => true
  | _ => false

/-- The settings stay as they are, or are read for a loop with two frames pending. -/
def Machine.Reads (host : Host Memory) (after : Machine Memory last) : Prop :=
  after.host.settings = host.settings ∨
    after.focus.isCrowded = true ∧ after.host.settings = some (host.settings.getD {})

/-- What a move keeps that neither raises a panic nor asks for anything: nothing is reported, the
settings are read only for a crowded loop, a thread that is started has no guard open, and the callers
get back the thread that is theirs. -/
structure Machine.Preserves (callers : Callers Memory last form) (host : Host Memory)
    (after : Machine Memory last) : Prop where
  reports : after.host.reports = host.reports
  silences : after.host.silencesGuarded = host.silencesGuarded
  settings : Reads host after
  threads : after.host.threads ≠ host.threads → after.host.thread.guards = 0
  returns : ∀ home, callers.Returns host.thread home → after.focus.Returns after.host.thread home

namespace Machine

variable {host between : Host Memory}

/-- What is kept for callers is kept for those below, when the thread is given back to these. -/
theorem Preserves.later {below : Callers Memory last rest} {after : Machine Memory last}
    (preserves : Preserves below between after) {callers : Callers Memory last form}
    (reports : between.reports = host.reports)
    (silences : between.silencesGuarded = host.silencesGuarded)
    (settings : between.settings = host.settings) (threads : between.threads = host.threads)
    (returns : ∀ home, callers.Returns host.thread home → below.Returns between.thread home) :
    Preserves callers host after where
  reports := preserves.reports.trans reports
  silences := preserves.silences.trans silences
  settings := by
    rw [Reads, ← settings]
    exact preserves.settings
  threads := threads ▸ preserves.threads
  returns home back := preserves.returns home (returns home back)

theorem Preserves.of_same {callers : Callers Memory last form} {after : Machine Memory last}
    (reports : after.host.reports = host.reports)
    (silences : after.host.silencesGuarded = host.silencesGuarded)
    (settings : after.host.settings = host.settings) (threads : after.host.threads = host.threads)
    (returns : ∀ home, callers.Returns host.thread home →
      after.focus.Returns after.host.thread home) : Preserves callers host after :=
  ⟨reports, silences, .inl settings, fun started => absurd threads started, returns⟩

theorem preserves_call (code : Code Memory form) (caller : Caller Memory form rest)
    (callers : Callers Memory last rest) (host : Host Memory) (here : caller.outer? = none)
    (guard : caller.isGuard = true) : Preserves callers host (call code caller callers host) := by
  refine .of_same rfl rfl rfl rfl fun home back => ?_
  change (Callers.push caller callers).Returns host.openGuard.thread home
  unfold Callers.Returns
  rw [here, guard]
  exact ⟨Nat.succ_pos _, back⟩

theorem preserves_perform (task : Task Memory) (callers : Callers Memory last .unit)
    (host : Host Memory) : Preserves callers host (perform task callers host) := by
  cases task <;> exact .of_same rfl rfl rfl rfl fun _ => id

theorem preserves_spawn (name : Option String) (caller : Caller Memory form rest)
    (body : Callers Memory last form → Host Memory → Machine Memory last)
    (callers : Callers Memory last rest) (host : Host Memory)
    (waits : caller.outer? = some host.thread)
    (inner : ∀ callers host, Preserves callers host (body callers host))
    (still : ∀ callers host, (body callers host).host.thread = host.thread) :
    Preserves callers host (spawn name caller body callers host) := by
  unfold spawn
  split
  · exact .of_same rfl rfl rfl rfl fun _ => id
  · have entered := inner (.push caller callers) (host.enterThread name)
    refine ⟨entered.reports, entered.silences, entered.settings, fun _ => by rw [still]; rfl, ?_⟩
    intro home back
    refine entered.returns home ?_
    unfold Callers.Returns
    rw [waits]
    exact ⟨rfl, back⟩

theorem preserves_execute (context : Context Memory) (task : Task Memory)
    (callers : Callers Memory last .unit) (host : Host Memory) :
    Preserves callers host (execute context task callers host) := by
  cases context with
  | immediate => exact preserves_perform task callers host
  | spawner spawner label =>
      have still : ∀ (callers : Callers Memory last .unit) host,
          (perform task callers host).host.thread = host.thread := by
        intro callers host
        cases task <;> rfl
      exact (preserves_spawn _ _ _ callers _ rfl (preserves_perform task) still).later rfl rfl rfl rfl
        fun _ => id
  | custom name schedule => exact .of_same rfl rfl rfl rfl fun _ => id

end Machine

theorem Registration.preserves_call (registration : Registration Memory) (token : Token)
    (completer : Completer) (callers : Callers Memory last .unit) (host : Host Memory) :
    Machine.Preserves callers host (registration.call token completer callers host) := by
  cases registration with
  | calling register => exact .of_same rfl rfl rfl rfl fun _ => id
  | hopping source context =>
      exact (Machine.preserves_execute context _ callers _).later rfl rfl rfl rfl fun _ => id
  | finishing head pending => exact .of_same rfl rfl rfl rfl fun _ => id

namespace Host

theorem reports_emitCanceled (host : Host Memory) (canceled : List Nat) :
    (host.emitCanceled canceled).reports = host.reports := by
  simp [emitCanceled, reports, List.filterMap_append, Function.comp_def, Entry.report?]

theorem reply_keeps (host : Host Memory) (request : Request Memory) :
    let after := (host.reply request).2
    after.reports = host.reports ∧ after.thread = host.thread ∧ after.threads = host.threads := by
  cases request with
  | cancel token reason =>
      exact ⟨reports_emitCanceled _ (host.tokens.cancel token reason).2, rfl, rfl⟩
  | push parent child =>
      exact ⟨reports_emitCanceled _ (host.tokens.push parent child).2, rfl, rfl⟩
  | settings | install settings | settingsFrom given =>
      simp only [reply, readSettings, install]
      split <;> exact ⟨rfl, rfl, rfl⟩
  | _ => exact ⟨rfl, rfl, rfl⟩

end Host

namespace Loop

open Machine (Preserves)

variable {callers : Callers Memory last form} {host : Host Memory}

theorem preserves_stop {callers : Callers Memory last .plan} (pending : Stack (Frame Memory))
    (head : Plan Memory) : Preserves callers host (stop pending head callers host) := by
  unfold stop
  split <;> exact .of_same rfl rfl rfl rfl fun _ => id

theorem preserves_descend (loop : Loop Memory form) (frame : Frame Memory) (source : Plan Memory) :
    Preserves callers host (loop.descend frame source callers host) := by
  obtain ⟨purpose, pending, token⟩ := loop
  simp only [descend, push]
  split
  · rename_i occupied
    have crowded := Stack.isCrowded_push occupied frame
    unfold Host.readSettings
    split
    · exact .of_same rfl rfl rfl rfl fun _ => id
    · rename_i missing
      have defaults : some ({} : Settings) = some (host.settings.getD {}) := by rw [missing]; rfl
      exact ⟨rfl, rfl, .inr ⟨crowded, defaults⟩, fun new => absurd rfl new, fun _ => id⟩
  · exact .of_same rfl rfl rfl rfl fun _ => id

theorem preserves_suspend (run : Nat) (pending : Stack (Frame Memory)) (token : Token)
    (registration : Registration Memory) {callers : Callers Memory last .unit} :
    Preserves callers host (suspend ⟨.run run, pending, token⟩ registration callers host) :=
  (registration.preserves_call _ _ _ _).later rfl rfl rfl rfl fun _ back => ⟨Nat.succ_pos _, back⟩

theorem preserves_iterate (loop : Loop Memory form) (plan : Plan Memory) :
    Preserves callers host (loop.iterate plan callers host) := by
  obtain ⟨purpose, pending, token⟩ := loop
  cases purpose with
  | run run =>
      simp only [iterate]
      split
      · exact .of_same rfl rfl rfl rfl fun _ => id
      · cases plan with
        | suspendWith | delayWith | switch => exact Machine.preserves_call _ _ _ _ rfl rfl
        | async registration => exact preserves_suspend run pending token registration
        | bind | map | handle | redeem => exact preserves_descend ⟨.run run, pending, token⟩ _ _
        | _ => exact .of_same rfl rfl rfl rfl fun _ => id
  | step =>
      cases plan with
      | suspendWith | delayWith => exact Machine.preserves_call _ _ _ _ rfl rfl
      | async | switch => exact preserves_stop _ _
      | bind | map | handle | redeem => exact preserves_descend ⟨.step, pending, token⟩ _ _
      | _ => exact .of_same rfl rfl rfl rfl fun _ => id

theorem preserves_feed (loop : Loop Memory form) (result : Result) :
    Preserves callers host (loop.feed result callers host) := by
  obtain ⟨purpose, pending, token⟩ := loop
  simp only [feed]
  split
  · cases purpose <;> exact .of_same rfl rfl rfl rfl fun _ => id
  · rename_i frame below popped
    cases frame <;> cases result <;>
      first
        | exact Machine.preserves_call _ _ _ _ rfl rfl
        | exact .of_same rfl rfl rfl rfl fun _ => id

theorem preserves_changeToken (loop : Loop Memory form) (token : Token) (event : Event)
    (plan : Plan Memory) :
    Preserves callers host
      ⟨.iterate (loop.changeToken token (host.emit event)).1 plan callers,
        (loop.changeToken token (host.emit event)).2⟩ := by
  obtain ⟨purpose, pending, old⟩ := loop
  cases purpose <;> exact .of_same rfl rfl rfl rfl fun _ => id

theorem preserves_goUnder (loop : Loop Memory form) (token : Token) (source : Plan Memory)
    (restore : Option (Result → Token → Token → Code Memory .token)) :
    Preserves callers host (loop.goUnder token source restore callers host) := by
  unfold goUnder
  split
  · exact .of_same rfl rfl rfl rfl fun _ => id
  · cases restore with
    | none => exact preserves_changeToken loop token _ source
    | some restore =>
        obtain ⟨purpose, pending, old⟩ := loop
        cases purpose <;> exact (preserves_descend _ _ _).later rfl rfl rfl rfl fun _ => id

theorem preserves_goBackTo (loop : Loop Memory form) (token : Token) (result : Result) :
    Preserves callers host (loop.goBackTo token result callers host) := by
  unfold goBackTo
  split
  · exact .of_same rfl rfl rfl rfl fun _ => id
  · exact preserves_changeToken loop token _ _

end Loop

namespace Machine

variable {host : Host Memory} {callers : Callers Memory last .unit}

theorem Detached.preserves {run epoch : Nat} {token : Token} {after : Machine Memory last}
    (detached : Detached host run epoch token callers after) : Preserves callers host after := by
  cases detached with
  | unbounded | waits | crossed => exact .of_same rfl rfl rfl rfl fun _ => id
  | @takesUp _ _ outcome => cases outcome <;> exact .of_same rfl rfl rfl rfl fun _ => id

theorem Completed.preserves {completer : Completer} {outcome : Outcome Value}
    {after : Machine Memory last} (completed : Completed host completer outcome callers after) :
    Preserves callers host after := by
  cases completed with
  | ignored | parked => exact .of_same rfl rfl rfl rfl fun _ => id
  | resumes => cases outcome <;> exact .of_same rfl rfl rfl rfl fun _ => id

theorem Ended.preserves {run : Nat} {outcome : Outcome Value} {after : Machine Memory last}
    (ended : Ended host run outcome callers after) : Preserves callers host after := by
  cases ended with
  | unknown | told => exact .of_same rfl rfl rfl rfl fun _ => id
  | calls | forwards | drops =>
      exact .of_same rfl rfl rfl rfl fun _ back => ⟨Nat.succ_pos _, back⟩

theorem preserves_answer (callers : Callers Memory last form) (answer : Answer Memory form) :
    Preserves callers host (callers.answer answer host) := by
  cases callers with
  | bottom => exact .of_same rfl rfl rfl rfl fun _ => id
  | push caller callers =>
      cases caller with
      | switching loop source restore =>
          cases answer
          exact (loop.preserves_goUnder _ source restore).later rfl rfl rfl rfl fun _ back => back.2
      | restoring loop result =>
          cases answer
          exact (loop.preserves_goBackTo _ result).later rfl rfl rfl rfl fun _ back => back.2
      | registering run epoch token =>
          cases answer
          exact (detached ..).preserves.later rfl rfl rfl rfl fun _ back => back.2
      | detaching run epoch token =>
          cases answer
          exact (detached ..).preserves.later rfl rfl rfl rfl fun _ => id
      | code | waiting | stepping => cases answer; exact .of_same rfl rfl rfl rfl fun _ => id
      | _ => cases answer; exact .of_same rfl rfl rfl rfl fun _ back => back.2

theorem preserves_unwind (callers : Callers Memory last form) (payload : Payload) :
    Preserves callers host (callers.unwind payload host) := by
  cases callers with
  | bottom => exact .of_same rfl rfl rfl rfl fun _ => id
  | push caller callers =>
      cases caller with
      | suspended loop onPanic | delayed loop onPanic =>
          exact (preserves_call _ _ _ _ rfl rfl).later rfl rfl rfl rfl fun _ back => back.2
      | code | waiting | stepping | detaching => exact .of_same rfl rfl rfl rfl fun _ => id
      | _ => exact .of_same rfl rfl rfl rfl fun _ back => back.2

def reported (machine : Machine Memory last) : List Payload :=
  if machine.host.silencesGuarded && 0 < machine.host.thread.guards then [] else machine.focus.loud

/-- What a move does to the guards, the reports and the settings. -/
structure Balances (machine after : Machine Memory last) : Prop where
  reports : after.host.reports = machine.reported.map Payload.text? ++ machine.host.reports
  silences : after.host.silencesGuarded = (machine.focus.silences || machine.host.silencesGuarded)
  settings : machine.focus.isConfiguring = false → Reads machine.host after
  threads : after.host.threads ≠ machine.host.threads → after.host.thread.guards = 0
  returns : ∀ home, machine.focus.Returns machine.host.thread home →
    after.focus.Returns after.host.thread home

theorem Preserves.balances {focus : Focus Memory last} {callers : Callers Memory last form}
    {after : Machine Memory last} (preserves : Preserves callers host after)
    (loud : focus.loud = []) (other : focus.silences = false)
    (returns : focus.Returns = callers.Returns) : Balances ⟨focus, host⟩ after where
  reports := by
    rw [preserves.reports, reported, loud, ite_self]
    rfl
  silences := by
    rw [preserves.silences, other]
    rfl
  settings := fun _ => preserves.settings
  threads := preserves.threads
  returns := returns ▸ preserves.returns

/-- Raising a panic reports it, unless a guard is open and such panics are left unreported. -/
theorem balances_panic (payload : Payload) (silent : Bool) (callers : Callers Memory last form) :
    Balances ⟨.code (.panic payload silent) callers, host⟩
      (evaluate (.panic payload silent) callers host) := by
  cases silent with
  | true =>
      exact ⟨by simp [reported, Focus.loud, evaluate], rfl, fun _ => .inl rfl,
        fun new => absurd rfl new, fun _ => id⟩
  | false =>
      simp only [evaluate, Host.report]
      cases unreported : host.silencesGuarded && decide (0 < host.thread.guards) with
      | true =>
          exact ⟨by simp [reported, unreported], rfl, fun _ => .inl rfl, fun new => absurd rfl new,
            fun _ => id⟩
      | false =>
          refine ⟨?_, rfl, fun _ => .inl rfl, fun new => absurd rfl new, fun _ => id⟩
          simp [reported, unreported, Focus.loud, Host.reports, Host.write, Entry.report?]

theorem balances_ask (request : Request Memory) (next : request.Reply → Code Memory form)
    (callers : Callers Memory last form) :
    Balances ⟨.code (.ask request next) callers, host⟩
      (evaluate (.ask request next) callers host) := by
  obtain ⟨reports, thread, threads⟩ := host.reply_keeps request
  constructor
  case reports => exact reports.trans (by simp [reported, Focus.loud])
  case silences =>
    cases request with
    | settings | install settings | settingsFrom given =>
        simp only [evaluate, Host.reply, Host.readSettings, Host.install]
        split <;> rfl
    | _ => rfl
  case settings =>
    intro other
    cases request with
    | settings | install => cases other
    | settingsFrom given =>
        simp only [evaluate, Host.reply]
        split <;> exact .inl rfl
    | _ => exact .inl rfl
  case threads => exact fun new => absurd threads new
  case returns =>
    intro home
    change callers.Returns host.thread home → callers.Returns (host.reply request).2.thread home
    rw [thread]
    exact id

theorem balances_evaluate (code : Code Memory form) (callers : Callers Memory last form) :
    Balances ⟨.code code callers, host⟩ (evaluate code callers host) := by
  cases code with
  | panic payload silent => exact balances_panic payload silent callers
  | ask request next => exact balances_ask request next callers
  | done answer => exact (preserves_answer callers answer).balances rfl rfl rfl
  | guard body next => exact (preserves_call _ _ _ _ rfl rfl).balances rfl rfl rfl
  | onThread name body next =>
      have spawned : Preserves callers host (evaluate (.onThread name body next) callers host) :=
        preserves_spawn name _ (fun callers host => ⟨.code (body ()) callers, host⟩) _ _ rfl
          (fun callers host => .of_same rfl rfl rfl rfl fun _ => id) fun callers host => rfl
      exact spawned.balances rfl rfl rfl
  | execute context task next =>
      exact ((preserves_execute context _ _ host).later rfl rfl rfl rfl fun _ => id).balances
        rfl rfl rfl
  | runTask task next =>
      have taken : Preserves callers host (evaluate (.runTask task next) callers host) := by
        simp only [evaluate]
        split
        · rename_i after found
          obtain rfl : (host.takeTask task).2 = after := by rw [found]
          exact .of_same rfl rfl rfl rfl fun _ => id
        · rename_i given after found
          obtain rfl : (host.takeTask task).2 = after := by rw [found]
          exact (preserves_perform given _ _).later rfl rfl rfl rfl fun _ => id
      exact taken.balances rfl rfl rfl
  | _ =>
      refine Preserves.balances ?_ rfl rfl rfl
      exact .of_same rfl rfl rfl rfl fun _ => id

/-- A panic is reported only as code raises it, and every move gives its thread back in the end. -/
theorem balances_next (machine : Machine Memory last) : machine.Balances machine.next := by
  obtain ⟨focus, host⟩ := machine
  cases focus with
  | code code callers => exact balances_evaluate code callers
  | iterate loop plan callers => exact (loop.preserves_iterate plan).balances rfl rfl rfl
  | feed loop result callers => exact (loop.preserves_feed result).balances rfl rfl rfl
  | finish run outcome callers => exact (ended ..).preserves.balances rfl rfl rfl
  | complete completer outcome callers =>
      exact (completed ..).preserves.balances rfl rfl rfl
  | unwind payload callers => exact (preserves_unwind callers payload).balances rfl rfl rfl
  | halted ending =>
      have still : Preserves .bottom host (.mk (.halted ending) host) :=
        .of_same rfl rfl rfl rfl fun _ => id
      exact still.balances rfl rfl rfl

end Machine

end Trampoline
