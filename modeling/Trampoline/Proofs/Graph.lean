import Mathlib.Logic.Relation
import Trampoline.Proofs.Tokens

/-!
A store of tokens as a graph.

Tokens are the nodes and children are the edges, in any shape: tokens may share a child, have it more
than once, and be below themselves.  What is known of a token is sound if only a canceled token has
a reason, if a canceled one has no children, and if all children have been created.
-/

namespace Trampoline

/-- What can be known of a token while so many tokens have been created. -/
structure Token.Status.Sound (created : Nat) (status : Status) : Prop where
  childless : status.canceled = true → status.children = []
  unexplained : status.canceled = false → status.reason = none
  known : ∀ child ∈ status.children, child.number ≤ created

namespace Token.Status.Sound

variable {created more : Nat} {status : Status}

theorem fresh : Sound created {} := ⟨fun _ => rfl, fun _ => rfl, by simp⟩

theorem mono (sound : status.Sound created) (fewer : created ≤ more) : status.Sound more :=
  { sound with known := fun child member => Nat.le_trans (sound.known child member) fewer }

end Token.Status.Sound

namespace Tokens

variable {tokens : Tokens} {token other parent child : Token} {index : Nat}

/-- Whether a token has been created, as the uncancelable one always has. -/
def Known (tokens : Tokens) (token : Token) : Prop :=
  token.number ≤ tokens.entries.size

instance : Decidable (tokens.Known token) := inferInstanceAs (Decidable (_ ≤ _))

@[simp]
theorem known_uncancelable (tokens : Tokens) : tokens.Known .uncancelable := Nat.zero_le _

theorem known_tracked : tokens.Known (.tracked index) ↔ index < tokens.entries.size := Iff.rfl

@[simp]
theorem isCanceled_uncancelable (tokens : Tokens) : tokens.isCanceled .uncancelable = false := rfl

section Update

variable {change : Token.Status → Token.Status}

@[simp]
theorem size_update (tokens : Tokens) (token : Token) (change : Token.Status → Token.Status) :
    (tokens.update token change).entries.size = tokens.entries.size := by
  cases token <;> simp [update]

theorem status_update_self (known : index < tokens.entries.size) :
    (tokens.update (.tracked index) change).status (.tracked index) =
      change (tokens.status (.tracked index)) := by
  simp [status, update, known, Array.getElem_modify_self]

theorem status_update_of_ne (different : other ≠ token) :
    (tokens.update token change).status other = tokens.status other := by
  cases token with
  | uncancelable => rfl
  | tracked index =>
      cases other with
      | uncancelable => rfl
      | tracked position =>
          have apart : index ≠ position := fun same => different (same ▸ rfl)
          simp [status, update, Array.getElem?_modify, apart]

theorem isCanceled_update (flag : ∀ status, (change status).canceled = status.canceled)
    (other : Token) : (tokens.update token change).isCanceled other = tokens.isCanceled other := by
  by_cases same : other = token
  · subst same
    cases other with
    | uncancelable => rfl
    | tracked index =>
        by_cases known : index < tokens.entries.size
        · rw [isCanceled, status_update_self known, flag, isCanceled]
        · simp [isCanceled, status, update, known]
  · rw [isCanceled, status_update_of_ne same, isCanceled]

end Update

@[simp]
theorem size_create (tokens : Tokens) :
    tokens.create.2.entries.size = tokens.entries.size + 1 := by
  simp [create]

@[simp]
theorem status_create (tokens : Tokens) (token : Token) :
    tokens.create.2.status token = tokens.status token := by
  cases token with
  | uncancelable => rfl
  | tracked index =>
      simp only [status, create, Array.getElem?_push]
      split
      · rename_i latest
        simp [latest]
      · rfl

@[simp]
theorem isCanceled_create (tokens : Tokens) (token : Token) :
    tokens.create.2.isCanceled token = tokens.isCanceled token := by
  rw [isCanceled, status_create, isCanceled]

def Child (tokens : Tokens) (parent child : Token) : Prop :=
  child ∈ (tokens.status parent).children

/-- A token can be reached from another along children, in any number of steps. -/
def Reaches (tokens : Tokens) : Token → Token → Prop :=
  Relation.ReflTransGen tokens.Child

def Sound (tokens : Tokens) : Prop :=
  ∀ token, (tokens.status token).Sound tokens.entries.size

namespace Sound

theorem childless (sound : tokens.Sound) (canceled : tokens.isCanceled token = true) :
    (tokens.status token).children = [] :=
  (sound token).childless canceled

theorem empty : Sound {} := fun token => by cases token <;> exact .fresh

theorem update {change : Token.Status → Token.Status} (sound : tokens.Sound)
    (changed : (change (tokens.status token)).Sound tokens.entries.size) :
    (tokens.update token change).Sound := by
  intro other
  rw [size_update]
  by_cases same : other = token
  · subst same
    cases other with
    | uncancelable => exact .fresh
    | tracked index =>
        by_cases known : index < tokens.entries.size
        · rw [status_update_self known]
          exact changed
        · have unknown : (tokens.update (.tracked index) change).status (.tracked index) = {} := by
            simp [status, Tokens.update, known]
          rw [unknown]
          exact .fresh
  · rw [status_update_of_ne same]
    exact sound other

theorem create (sound : tokens.Sound) : tokens.create.2.Sound := by
  intro token
  rw [status_create, size_create]
  exact (sound token).mono (Nat.le_succ _)

theorem pop (sound : tokens.Sound) (parent : Token) : (tokens.pop parent).2.Sound := by
  unfold Tokens.pop
  split
  · exact sound
  · rename_i child rest found
    have childless := (sound parent).childless
    refine sound.update ⟨fun canceled => ?_, (sound parent).unexplained, fun other member => ?_⟩
    · rw [childless canceled] at found
      cases found
    · exact (sound parent).known other (by rw [found]; exact .tail _ member)

end Sound

end Tokens

end Trampoline
