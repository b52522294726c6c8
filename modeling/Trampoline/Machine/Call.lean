import Trampoline.Machine
import Trampoline.Plan.Combinators

/-!
What a machine starts: code under a guard, runs, threads, and tasks on contexts.
-/

namespace Trampoline

variable {Memory : Type} {last : Form}

namespace Machine

def finished (callers : Callers Memory last .unit) (host : Host Memory) : Machine Memory last :=
  ⟨.code Code.unit callers, host⟩

def call {form rest : Form} (code : Code Memory form) (caller : Caller Memory form rest)
    (callers : Callers Memory last rest) (host : Host Memory) : Machine Memory last :=
  ⟨.code code (.push caller callers), host.openGuard⟩

def start (plan : Plan Memory) (pending : Stack (Frame Memory)) (token : Token)
    (receiver : Receiver Memory) (callers : Callers Memory last .unit) (host : Host Memory) :
    Machine Memory last :=
  let (run, host) := host.addRun receiver
  ⟨.iterate { purpose := .run run, pending, token } plan callers, host⟩

def perform (task : Task Memory) (callers : Callers Memory last .unit) (host : Host Memory) :
    Machine Memory last :=
  match task with
  | .code body => ⟨.code (body ()) callers, host⟩
  | .run source token completer => start source {} token (.forward completer) callers host

def spawn {form rest : Form} (name : Option String) (caller : Caller Memory form rest)
    (body : Callers Memory last form → Host Memory → Machine Memory last)
    (callers : Callers Memory last rest) (host : Host Memory) : Machine Memory last :=
  match name.bind Thread.nameFault? with
  | some fault => ⟨.code (.panic (.message fault) false : Code Memory rest) callers, host⟩
  | none => body (.push caller callers) (host.enterThread name)

def execute (context : Context Memory) (task : Task Memory) (callers : Callers Memory last .unit)
    (host : Host Memory) : Machine Memory last :=
  match context with
  | .immediate => perform task callers host
  | .spawner spawner label =>
      let number := host.spawned[spawner]?.getD 0
      let host := { host with spawned := host.spawned.modify spawner (· + 1) }
      spawn (some (label ++ "-" ++ toString number)) (.spawning host.thread) (perform task) callers
        host
  | .custom _ schedule =>
      let (number, host) := host.addTask task
      ⟨.code (schedule number) callers, host⟩

end Machine

def Context.name : Context Memory → String
  | .immediate => "immediate"
  | .spawner _ label => label
  | .custom name _ => name

def Registration.call (registration : Registration Memory) (token : Token) (completer : Completer)
    (callers : Callers Memory last .unit) (host : Host Memory) : Machine Memory last :=
  match registration with
  | .calling register => ⟨.code (register token completer) callers, host⟩
  | .hopping source context =>
      Machine.execute context (.run source token completer) callers
        (host.emit (.continuingOn context.name))
  | .finishing head pending => Machine.start head pending token (.forward completer) callers host

end Trampoline
