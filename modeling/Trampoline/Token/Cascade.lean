import Trampoline.Token

/-!
Canceling a token and everything below it.

`cascade` works through pending tokens from the front: one that is canceled already is skipped, any
other is marked, loses its children, and has them visited next in the order in which they were
pushed.  So tokens are marked in the order of a depth-first walk, and each at most once, which is
also why the walk ends on any graph: either a token is marked or the pending list gets shorter.
-/

namespace Trampoline.Tokens

/-- Mark a token as canceled and take its children from it. -/
def mark (tokens : Tokens) (index : Nat) : Tokens :=
  { tokens with
    entries := tokens.entries.modify index fun status =>
      { status with canceled := true, children := [] } }

theorem live_mark_lt (tokens : Tokens) (index : Nat) (status : Token.Status)
    (found : tokens.entries[index]? = some status) (uncanceled : status.canceled = false) :
    (tokens.mark index).live < tokens.live := by
  obtain ⟨bound, rfl⟩ := Array.getElem?_eq_some_iff.1 found
  have marked : (tokens.mark index).entries =
      tokens.entries.set index { tokens.entries[index] with canceled := true, children := [] } := by
    apply Array.ext
    · simp [mark]
    · intro position _ _
      simp [mark, Array.getElem_modify, Array.getElem_set]
      split <;> simp_all
  have counted : 0 < tokens.entries.countP fun status => !status.canceled :=
    Array.countP_pos_iff.2 ⟨_, Array.getElem_mem bound, by simp [uncanceled]⟩
  simp only [live, marked, Array.countP_set bound, uncanceled, Bool.not_false, Bool.not_true,
    if_true, Bool.false_eq_true, if_false]
  omega

/-- Cancel pending tokens and all below them; the second component collects the indices of the
tokens that were not canceled before, the last one first. -/
def cascade (tokens : Tokens) (canceled : List Nat) : List Token → Tokens × List Nat
  | [] => (tokens, canceled)
  | .uncancelable :: pending => cascade tokens canceled pending
  | .tracked index :: pending =>
      match _found : tokens.entries[index]? with
      | none => cascade tokens canceled pending
      | some status =>
          if _uncanceled : status.canceled = false then
            cascade (tokens.mark index) (index :: canceled) (status.children.reverse ++ pending)
          else cascade tokens canceled pending
termination_by pending => (tokens.live, pending.length)
decreasing_by
  · exact Prod.Lex.right _ (by simp)
  · exact Prod.Lex.right _ (by simp)
  · exact Prod.Lex.left _ _ (live_mark_lt tokens index status _found _uncanceled)
  · exact Prod.Lex.right _ (by simp)

/-- Cancel a token; the reason stays with it only if it was not canceled before. -/
def cancel (tokens : Tokens) (token : Token) (reason : Option String) : Tokens × List Nat :=
  if tokens.isCanceled token then (tokens, [])
  else cascade (tokens.update token fun status => { status with reason := reason }) [] [token]

/-- Put a child on top of a token's children; a token that is canceled cancels the child instead. -/
def push (tokens : Tokens) (parent child : Token) : Tokens × List Nat :=
  if tokens.isCanceled parent then tokens.cancel child none
  else (tokens.update parent fun status => { status with children := child :: status.children }, [])

end Trampoline.Tokens
