import Trampoline.Boundary
import Trampoline.Event
import Trampoline.Plan.Combinators
import Trampoline.Token.Cascade

/-!
The host of all runs: what outlasts the code that is running.

A host knows the tokens, the runs with their boundaries and outcomes, the tasks handed to contexts,
the settings, the thread that is current and the journal.  Threads are started to be waited for, so
one thread is current at a time.
-/

namespace Trampoline

variable {Memory : Type}

structure Thread where
  id : Nat := 0
  name : Option String := some "main"
  guards : Nat := 0
  deriving Repr

/-- Why a thread cannot have a name: the name holds a null character. -/
def Thread.nameFault? (name : String) : Option String :=
  let bytes := name.toUTF8.toList
  (bytes.findIdx? (· == 0)).map fun index =>
    "thread name may not contain interior null bytes: NulError(" ++ toString index ++ ", [" ++
      ", ".intercalate (bytes.map fun byte => toString byte.toNat) ++ "])"

inductive Receiver (Memory : Type) where
  | code (receive : Outcome Value → Code Memory .unit)
  /-- The boundary of another run, which the outcome completes. -/
  | forward (completer : Completer)
  /-- Nobody: the starter looks the outcome up. -/
  | nobody

structure Run (Memory : Type) where
  receiver : Receiver Memory
  /-- The outcome, once the run has ended. -/
  outcome : Option (Outcome Value) := none
  /-- Missing until the run reaches its first boundary. -/
  boundary : Option (Boundary Memory) := none

inductive Task (Memory : Type) where
  | code (body : Unit → Code Memory .unit)
  /-- Run a plan; its outcome completes a boundary. -/
  | run (source : Plan Memory) (token : Token) (completer : Completer)

structure Host (Memory : Type) where
  memory : Memory
  tokens : Tokens := {}
  runs : Array (Run Memory) := #[]
  /-- The tasks handed to contexts; one that has been run is missing. -/
  tasks : Array (Option (Task Memory)) := #[]
  kept : Array (Plan Memory) := #[]
  thread : Thread := {}
  /-- How many threads there have been. -/
  threads : Nat := 1
  capturedPanics : Nat := 0
  /-- Whether panics under a guard are left unreported. -/
  silencesGuarded : Bool := false
  /-- Missing until the settings are installed or read. -/
  settings : Option Settings := none
  /-- How many threads each spawner has started. -/
  spawned : Array Nat := #[]
  /-- The entries written down, the latest first. -/
  journal : List Entry := []

namespace Host

def write (host : Host Memory) (entry : Entry) : Host Memory :=
  { host with journal := entry :: host.journal }

def emit (host : Host Memory) (event : Event) : Host Memory :=
  host.write (.event event)

def report (host : Host Memory) (payload : Payload) : Host Memory :=
  if host.silencesGuarded && 0 < host.thread.guards then host
  else host.write (.report payload.text?)

def openGuard (host : Host Memory) : Host Memory :=
  { host with thread := { host.thread with guards := host.thread.guards + 1 } }

def closeGuard (host : Host Memory) : Host Memory :=
  { host with thread := { host.thread with guards := host.thread.guards - 1 } }

/-- A guard on the current thread closes because of a panic, which is counted. -/
def capture (host : Host Memory) (payload : Payload) : Panic × Host Memory :=
  let number := host.capturedPanics + 1
  let panic : Panic :=
    { message := payload.caughtMessage, number, thread := host.thread.name }
  let counted := { host.closeGuard with capturedPanics := number }
  (panic, counted.emit (.capturedPanic number panic.message))

def enterThread (host : Host Memory) (name : Option String) : Host Memory :=
  { host with thread := { id := host.threads, name }, threads := host.threads + 1 }

/-- A started thread has ended: the one that waited for it is current again. -/
def leaveThread (host : Host Memory) (outer : Thread) : Host Memory :=
  { host with thread := outer }

def addRun (host : Host Memory) (receiver : Receiver Memory) : Nat × Host Memory :=
  (host.runs.size, { host with runs := host.runs.push { receiver } })

def addTask (host : Host Memory) (task : Task Memory) : Nat × Host Memory :=
  (host.tasks.size, { host with tasks := host.tasks.push (some task) })

def takeTask (host : Host Memory) (task : Nat) : Option (Task Memory) × Host Memory :=
  ((host.tasks[task]?).join, { host with tasks := host.tasks.modify task fun _ => none })

def keep (host : Host Memory) (plan : Plan Memory) : Nat × Host Memory :=
  (host.kept.size, { host with kept := host.kept.push plan })

/-- The plan that is held under a number; nothing comes of a number that was not given out. -/
def held (host : Host Memory) (kept : Nat) : Plan Memory :=
  host.kept[kept]?.getD .never

def look (host : Host Memory) : Plan Memory → Plan Memory
  | .held kept => host.held kept
  | plan => plan

def outcome? (host : Host Memory) (run : Nat) : Option (Outcome Value) :=
  host.runs[run]?.bind Run.outcome

def boundary? (host : Host Memory) (run : Nat) : Option (Boundary Memory) :=
  host.runs[run]?.bind Run.boundary

def setBoundary (host : Host Memory) (run : Nat) (boundary : Boundary Memory) : Host Memory :=
  { host with runs := host.runs.modify run fun entry => { entry with boundary := some boundary } }

def changeToken (host : Host Memory) (run : Nat) (token : Token) : Host Memory :=
  { host with
    runs := host.runs.modify run fun entry =>
      { entry with boundary := entry.boundary.map fun boundary => { boundary with token } } }

def readSettings (host : Host Memory) : Settings × Host Memory :=
  match host.settings with
  | some settings => (settings, host)
  | none => ({}, { host with settings := some {} })

/-- Install settings, unless they have a fault or others are fixed already. -/
def install (host : Host Memory) (settings : Settings) :
    Except Settings.Fault Unit × Host Memory :=
  match settings.fault?, host.settings with
  | some fault, _ => (.error fault, host)
  | none, some _ => (.error .alreadyInstalled, host)
  | none, none =>
      (.ok (), { host with settings := some settings }.emit (.settingsInstalled settings))

/-- Write down that tokens were canceled, of which the last one comes first. -/
def emitCanceled (host : Host Memory) (canceled : List Nat) : Host Memory :=
  let entries := canceled.map fun index => Entry.event (.cancellationRequested (index + 1))
  { host with journal := entries ++ host.journal }

def cancel (host : Host Memory) (token : Token) (reason : Option String) : Host Memory :=
  let (tokens, canceled) := host.tokens.cancel token reason
  { host with tokens }.emitCanceled canceled

def push (host : Host Memory) (parent child : Token) : Host Memory :=
  let (tokens, canceled) := host.tokens.push parent child
  { host with tokens }.emitCanceled canceled

end Host

end Trampoline
