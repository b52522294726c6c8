import Trampoline.Token.Cascade

/-!
Tokens stay canceled.

Whatever is done to a store of tokens, a token that is canceled in it remains so: a cascade only
marks tokens, and a change of reason or of children leaves the mark alone.
-/

namespace Trampoline.Tokens

/-- Every token that is canceled in the first store is canceled in the second. -/
def Within (tokens after : Tokens) : Prop :=
  ∀ token, tokens.isCanceled token = true → after.isCanceled token = true

theorem Within.refl (tokens : Tokens) : tokens.Within tokens := fun _ => id

theorem Within.trans {tokens between after : Tokens} (first : tokens.Within between)
    (second : between.Within after) : tokens.Within after :=
  fun token canceled => second token (first token canceled)

theorem within_update (tokens : Tokens) (token : Token)
    {change : Token.Status → Token.Status}
    (kept : ∀ status, status.canceled = true → (change status).canceled = true) :
    tokens.Within (tokens.update token change) := by
  intro other canceled
  cases token with
  | uncancelable => exact canceled
  | tracked index =>
      cases other with
      | uncancelable => exact canceled
      | tracked position =>
          simp only [isCanceled, status, update, Array.getElem?_modify] at canceled ⊢
          split
          · cases found : tokens.entries[position]? with
            | none => simp [found] at canceled
            | some status =>
                rw [found] at canceled
                exact kept status canceled
          · exact canceled

theorem within_mark (tokens : Tokens) (index : Nat) : tokens.Within (tokens.mark index) :=
  tokens.within_update (.tracked index) fun _ _ => rfl

theorem within_create (tokens : Tokens) : tokens.Within tokens.create.2 := by
  intro token canceled
  cases token with
  | uncancelable => exact canceled
  | tracked index =>
      simp only [isCanceled, status, create, Array.getElem?_push] at canceled ⊢
      split
      · rename_i outside
        simp [outside] at canceled
      · exact canceled

theorem within_pop (tokens : Tokens) (parent : Token) : tokens.Within (tokens.pop parent).2 := by
  unfold pop
  split
  · exact .refl tokens
  · exact tokens.within_update parent fun _ => id

theorem within_cascade (tokens : Tokens) (canceled : List Nat) (pending : List Token) :
    tokens.Within (tokens.cascade canceled pending).1 := by
  fun_induction cascade tokens canceled pending with
  | case1 => exact .refl _
  | case2 _ _ _ inductionHypothesis => exact inductionHypothesis
  | case3 _ _ _ _ _ inductionHypothesis => exact inductionHypothesis
  | case4 tokens _ index _ _ _ _ inductionHypothesis =>
      rw [List.unattach_reverse, List.unattach_attach] at inductionHypothesis
      exact (tokens.within_mark index).trans inductionHypothesis
  | case5 _ _ _ _ _ _ _ inductionHypothesis => exact inductionHypothesis

theorem within_cancel (tokens : Tokens) (token : Token) (reason : Option String) :
    tokens.Within (tokens.cancel token reason).1 := by
  unfold cancel
  split
  · exact .refl tokens
  · have reasoned : tokens.Within (tokens.update token fun status => { status with reason }) :=
      tokens.within_update token fun _ => id
    exact reasoned.trans (within_cascade _ _ _)

theorem within_push (tokens : Tokens) (parent child : Token) :
    tokens.Within (tokens.push parent child).1 := by
  unfold push
  split
  · exact tokens.within_cancel child none
  · exact tokens.within_update parent fun _ => id

end Trampoline.Tokens
