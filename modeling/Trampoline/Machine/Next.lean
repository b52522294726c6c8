import Trampoline.Host.Reply
import Trampoline.Machine.Caller

/-!
One move of a machine, and running code on a host to its end.
-/

namespace Trampoline

variable {Memory : Type} {last : Form}

namespace Machine

def evaluate {form : Form} (code : Code Memory form) (callers : Callers Memory last form)
    (host : Host Memory) : Machine Memory last :=
  match code with
  | .done answer => callers.answer answer host
  | .ask request next =>
      let (reply, host) := host.reply request
      ⟨.code (next reply) callers, host⟩
  | .panic payload silent =>
      ⟨.unwind payload callers, if silent then host else host.report payload⟩
  | .guard body next => call (body ()) (.guarding next) callers host
  | .onThread name body next =>
      spawn name (.joining host.thread next) (fun callers host => ⟨.code (body ()) callers, host⟩)
        callers host
  | .run plan token receive next =>
      start plan {} token (.code receive) (.push (.code next) callers) host
  | .runSync plan token next =>
      start plan {} token .nobody (.push (.waiting host.runs.size next) callers) host
  | .step plan next =>
      ⟨.iterate { purpose := .step, token := .uncancelable } plan
        (.push (.stepping next) callers), host⟩
  | .complete completer result next =>
      ⟨.complete completer (.ofResult result) (.push (.code next) callers), host⟩
  | .execute context task next => execute context (.code task) (.push (.code next) callers) host
  | .runTask task next =>
      match host.takeTask task with
      | (none, host) => ⟨.code (next ()) callers, host⟩
      | (some task, host) => perform task (.push (.code next) callers) host

def next (machine : Machine Memory last) : Machine Memory last :=
  match machine with
  | ⟨.code code callers, host⟩ => evaluate code callers host
  | ⟨.iterate loop current callers, host⟩ => loop.iterate current callers host
  | ⟨.feed loop result callers, host⟩ => loop.feed result callers host
  | ⟨.finish run outcome callers, host⟩ => finish run outcome callers host
  | ⟨.complete completer outcome callers, host⟩ => complete completer outcome callers host
  | ⟨.unwind payload callers, host⟩ => callers.unwind payload host
  | ⟨.halted ending, host⟩ => ⟨.halted ending, host⟩

def ending? (machine : Machine Memory last) : Option (Except Payload (Answer Memory last)) :=
  match machine.focus with
  | .halted ending => some ending
  | _ => none

def moves : Nat → Machine Memory last → Machine Memory last
  | 0, machine => machine
  | fuel + 1, machine =>
      match machine with
      | ⟨.halted ending, host⟩ => ⟨.halted ending, host⟩
      | machine => moves fuel machine.next

end Machine

namespace Host

/-- Run code to its end; nothing if it takes more moves than allowed. -/
def perform {form : Form} (fuel : Nat) (code : Code Memory form) (host : Host Memory) :
    Option (Except Payload (Answer Memory form) × Host Memory) :=
  let machine := Machine.moves fuel ⟨.code code .bottom, host⟩
  machine.ending?.map fun ending => (ending, machine.host)

end Host

end Trampoline
