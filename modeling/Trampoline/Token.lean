/-!
Cancellation tokens and the store that tracks them.

A token is a name: all handles of one token are equal, and what is known of it stands in the store.
The uncancelable token is in no store and nothing changes it.
-/

namespace Trampoline

/-- A signal that a run consults to decide whether to stop. -/
inductive Token where
  | uncancelable
  | tracked (index : Nat)
  deriving DecidableEq, Inhabited, Repr

namespace Token

/-- Tokens are numbered from one in the order of their creation; the uncancelable token is zero. -/
def number : Token → Nat
  | .uncancelable => 0
  | .tracked index => index + 1

def isCancelable : Token → Bool
  | .uncancelable => false
  | .tracked _ => true

structure Status where
  canceled : Bool := false
  reason : Option String := none
  /-- The tokens pushed onto this one, the most recent first. -/
  children : List Token := []
  deriving Inhabited, Repr

/-- Check that a token is not canceled; a check that fails tells the reason, if it is known. -/
def Status.check (status : Status) : Except (Option String) Unit :=
  if status.canceled then .error status.reason else .ok ()

end Token

structure Tokens where
  entries : Array Token.Status := #[]
  deriving Inhabited

namespace Tokens

/-- What is known of a token; of one outside the store, that nothing has happened to it. -/
def status (tokens : Tokens) : Token → Token.Status
  | .uncancelable => {}
  | .tracked index => tokens.entries[index]?.getD {}

def isCanceled (tokens : Tokens) (token : Token) : Bool :=
  (tokens.status token).canceled

def create (tokens : Tokens) : Token × Tokens :=
  (.tracked tokens.entries.size, { tokens with entries := tokens.entries.push {} })

def update (tokens : Tokens) (token : Token) (change : Token.Status → Token.Status) : Tokens :=
  match token with
  | .uncancelable => tokens
  | .tracked index => { tokens with entries := tokens.entries.modify index change }

def pop (tokens : Tokens) (parent : Token) : Option Token × Tokens :=
  match (tokens.status parent).children with
  | [] => (none, tokens)
  | child :: rest =>
      (some child, tokens.update parent fun status => { status with children := rest })

@[simp]
theorem status_uncancelable (tokens : Tokens) : tokens.status .uncancelable = {} := rfl

@[simp]
theorem update_uncancelable (tokens : Tokens) (change : Token.Status → Token.Status) :
    tokens.update .uncancelable change = tokens := rfl

def live (tokens : Tokens) : Nat :=
  tokens.entries.countP fun status => !status.canceled

end Tokens

def Token.shown (token : Token) (status : Token.Status) : String :=
  match token with
  | .uncancelable => "CancellationToken(uncancelable)"
  | .tracked index =>
      "CancellationToken \x7b id: " ++ toString (index + 1) ++ ", canceled: " ++
        toString status.canceled ++ ", children: " ++ toString status.children.length ++ " \x7d"

def Token.canceledMessage : Option String → String
  | none => "operation canceled"
  | some reason => "operation canceled: " ++ reason

end Trampoline
