import Trampoline.Plan.Combinators
import Trampoline.Script.View

/-!
What scripts share: names for tokens, saved completers, stored plans, contexts and queues.
-/

namespace Trampoline.Script

abbrev Names (Alpha : Type) := List (String × Alpha)

namespace Names

variable {Alpha : Type}

def unbind (name : String) (names : Names Alpha) : Names Alpha :=
  names.filter fun entry => entry.1 != name

def bind (name : String) (value : Alpha) (names : Names Alpha) : Names Alpha :=
  (name, value) :: names.unbind name

def find? (name : String) (names : Names Alpha) : Option Alpha :=
  names.lookup name

def binds (name : String) (names : Names Alpha) : Bool :=
  (names.find? name).isSome

end Names

inductive Place where
  | immediate
  | spawner (spawner : Nat) (label : String)
  | queue (queue label : String)
  | dropping (label : String)
  | panicking (label : String)
  | plain

structure Memory where
  tokens : Names Token := []
  slots : Names Completer := []
  plans : Names Nat := []
  places : Names Place := []
  /-- The tasks each queue keeps, the oldest first. -/
  queues : Names (List Nat) := []

instance : Inhabited Memory := ⟨{}⟩

abbrev Program (form : Form) := Code Memory form

variable {form : Form}

def recalling {Alpha : Type} (part : Memory → Alpha) (next : Alpha → Program form) :
    Program form :=
  .ask .recall fun memory => next (part memory)

def modifying (change : Memory → Memory) (next : Unit → Program form) : Program form :=
  .ask (.modify change) next

def noting (fields : List (String × Datum)) (next : Unit → Program form) : Program form :=
  .ask (.note (.record fields)) next

def bindingToken (name : String) (token : Token) (next : Unit → Program form) : Program form :=
  modifying (fun memory => { memory with tokens := memory.tokens.bind name token }) next

def viewing (token : Token) (next : Datum → Program form) : Program form :=
  .ask (.status token) fun status => next (token.view status)

def newChild (parent : Token) (next : Token → Program form) : Program form :=
  .ask .newToken fun child => .ask (.push parent child) fun _ => next child

def showing (completer : Completer) (next : String → Program form) : Program form :=
  .ask (.isArmed completer) fun armed =>
    next ("Resume(AsyncCallback \x7b epoch: " ++ toString completer.epoch ++ ", armed: " ++
      toString armed ++ " \x7d)")

namespace Place

def name : Place → String
  | .immediate => "immediate"
  | .spawner _ label | .queue _ label | .dropping label | .panicking label => label
  | .plain => "anonymous"

def context (place : Place) : Context Memory :=
  match place with
  | .immediate => .immediate
  | .spawner number label => .spawner number label
  | .queue kept label =>
      .custom label fun task =>
        noting [("queued", .text kept)] fun _ =>
          modifying
            (fun memory =>
              let tasks := (memory.queues.find? kept).getD []
              { memory with queues := memory.queues.bind kept (tasks ++ [task]) })
            fun _ => Code.unit
  | .dropping label => .custom label fun _ => Code.unit
  | .panicking label => .custom label fun _ => .panic (.message (label ++ " refuses")) false
  | .plain => .custom place.name fun task => .runTask task fun _ => Code.unit

end Place

/-- The context a name stands for; a name that is not bound stands for the immediate one. -/
def withContext (name : String) (next : Context Memory → Program form) : Program form :=
  recalling (fun memory => memory.places.find? name) fun place =>
    next ((place.map Place.context).getD .immediate)

end Trampoline.Script
