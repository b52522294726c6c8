import Trampoline.Proofs.Walk

/-!
Cancellations and pushes in either order.

A cancellation takes the children from what it cancels, so that a second one walks over another
graph than it would have walked over first.  Both together still cancel what can be reached from
either root: where the way from the second root is cut, the first one has gone on from there.  A
push adds one edge, and a root that reaches the parent reaches what the child reaches: it is all the
same whether the edge is there before the cancellation or the canceled parent passes it on.
-/

namespace Trampoline

variable {Memory : Type}

namespace Tokens

variable {tokens other : Tokens} {root first second parent child token : Token}
  {reason : Option String}

/-- Stores of equally many tokens of which the same is known are equal. -/
theorem eq_of_status (created : tokens.entries.size = other.entries.size)
    (same : ∀ token, tokens.status token = other.status token) : tokens = other := by
  obtain ⟨entries⟩ := tokens
  obtain ⟨others⟩ := other
  refine congrArg Tokens.mk (Array.ext created fun index bound otherBound => ?_)
  simpa [status, bound, otherBound] using same (.tracked index)

theorem Reaches.mono (kept : ∀ upper lower, tokens.Child upper lower → other.Child upper lower)
    (reached : tokens.Reaches root token) : other.Reaches root token :=
  Relation.ReflTransGen.mono kept _ _ reached

/-- A token that is canceled, for the first time, when a root is. -/
structure Struck (tokens : Tokens) (root token : Token) : Prop where
  cancelable : token.isCancelable = true
  uncanceled : tokens.isCanceled token = false
  reached : tokens.Reaches root token

theorem Struck.root_isCancelable (struck : tokens.Struck root token) :
    root.isCancelable = true := by
  cases token with
  | uncancelable => cases struck.cancelable
  | tracked index => exact isCancelable_of_reaches struck.reached

section Cancel

variable (sound : tokens.Sound) (known : tokens.Known root)
include sound known

theorem Sound.size_cancel (reason : Option String) :
    (tokens.cancel root reason).1.entries.size = tokens.entries.size := by
  obtain ⟨order, cancels, _⟩ := sound.cancels known reason
  exact cancels.created

theorem Sound.isCanceled_cancel (reason : Option String) (token : Token) :
    (tokens.cancel root reason).1.isCanceled token = true ↔
      tokens.isCanceled token = true ∨ tokens.Struck root token := by
  obtain ⟨order, cancels, _⟩ := sound.cancels known reason
  rw [cancels.canceled]
  constructor
  · rintro (before | ⟨_, cancelable, reached⟩)
    · exact .inl before
    · cases before : tokens.isCanceled token with
      | true => exact .inl rfl
      | false => exact .inr ⟨cancelable, before, reached⟩
  · rintro (before | struck)
    · exact .inl before
    · exact .inr ⟨struck.root_isCancelable, struck.cancelable, struck.reached⟩

open Classical in
theorem Sound.status_cancel (reason : Option String) (token : Token) :
    (tokens.cancel root reason).1.status token =
      if tokens.Struck root token then
        { canceled := true, reason := if token = root then reason else none }
      else tokens.status token := by
  have canceled := sound.isCanceled_cancel known reason token
  obtain ⟨order, cancels, _⟩ := sound.cancels known reason
  split
  · rename_i struck
    exact cancels.marked token struck.uncanceled (canceled.2 (.inr struck))
  · rename_i missed
    refine cancels.kept token (Bool.eq_iff_iff.2 ?_)
    rw [canceled, or_iff_left missed]

theorem Sound.child_cancel (reason : Option String) :
    (tokens.cancel root reason).1.Child parent child ↔
      tokens.Child parent child ∧ ¬tokens.Struck root parent := by
  unfold Child
  rw [sound.status_cancel known]
  by_cases struck : tokens.Struck root parent <;> simp [struck]

/-- What can be reached before a cancellation can be reached after it, or else from its root. -/
theorem Sound.reaches_cancel (reason : Option String) (reached : tokens.Reaches second token) :
    (tokens.cancel root reason).1.Reaches second token ∨ tokens.Reaches root token := by
  induction reached with
  | refl => exact .inl .refl
  | @tail middle token _ link inductionHypothesis =>
      rcases inductionHypothesis with still | instead
      · by_cases struck : tokens.Struck root middle
        · exact .inr (struck.reached.tail link)
        · exact .inl (still.tail ((sound.child_cancel known reason).2 ⟨link, struck⟩))
      · exact .inr (instead.tail link)

/-- Two cancellations cancel what either would have canceled alone. -/
theorem Sound.struck_cancel (reason : Option String) :
    tokens.Struck root token ∨ (tokens.cancel root reason).1.Struck second token ↔
      tokens.Struck root token ∨ tokens.Struck second token := by
  have canceled := sound.isCanceled_cancel known reason token
  constructor
  · rintro (struck | struck)
    · exact .inl struck
    · have before : tokens.isCanceled token = false := Bool.eq_false_iff.2 fun before => by
        simp [struck.uncanceled] at canceled
        exact absurd before (by simp [canceled.1])
      exact .inr ⟨struck.cancelable, before,
        Reaches.mono (fun _ _ link => ((sound.child_cancel known reason).1 link).1)
          struck.reached⟩
  · rintro (struck | struck)
    · exact .inl struck
    · by_cases already : tokens.Struck root token
      · exact .inl already
      · refine .inr ⟨struck.cancelable, Bool.eq_false_iff.2 fun now => ?_, ?_⟩
        · exact (canceled.1 now).elim (by simp [struck.uncanceled]) already
        · exact (sound.reaches_cancel known reason struck.reached).resolve_right fun instead =>
            already ⟨struck.cancelable, struck.uncanceled, instead⟩

open Classical in
theorem Sound.status_cancel_cancel (secondKnown : tokens.Known second) (reason : Option String)
    (token : Token) :
    ((tokens.cancel root reason).1.cancel second none).1.status token =
      if tokens.Struck root token ∨ tokens.Struck second token then
        { canceled := true, reason := if token = root then reason else none }
      else tokens.status token := by
  have stillKnown : (tokens.cancel root reason).1.Known second := by
    rwa [Known, sound.size_cancel known reason]
  rw [(sound.cancel known reason).status_cancel stillKnown, sound.status_cancel known]
  simp only [← sound.struck_cancel known reason]
  by_cases struck : tokens.Struck root token
  · have canceled := (sound.isCanceled_cancel known reason token).2 (.inr struck)
    have once : ¬(tokens.cancel root reason).1.Struck second token := fun again =>
      absurd canceled (by simp [again.uncanceled])
    simp [struck, once]
  · by_cases later : (tokens.cancel root reason).1.Struck second token
    · -- the first root itself is not left to the second cancellation
      have apart : token ≠ root := by
        rintro rfl
        have before := (sound.struck_cancel known reason).1 (.inr later)
        exact struck ⟨later.cancelable, (before.resolve_left struck).uncanceled, .refl⟩
      simp [struck, later, apart]
    · simp [struck, later]

theorem Sound.cancel_comm (secondKnown : tokens.Known second) :
    ((tokens.cancel root none).1.cancel second none).1 =
      ((tokens.cancel second none).1.cancel root none).1 := by
  classical
  refine eq_of_status ?_ fun token => ?_
  · rw [(sound.cancel known none).size_cancel, (sound.cancel secondKnown none).size_cancel,
      sound.size_cancel known, sound.size_cancel secondKnown]
    · rwa [Known, sound.size_cancel secondKnown]
    · rwa [Known, sound.size_cancel known]
  · rw [sound.status_cancel_cancel known secondKnown, sound.status_cancel_cancel secondKnown known]
    simp only [ite_self, or_comm]

end Cancel

section Push

theorem push_eq (tokens : Tokens) (parent child : Token) :
    (tokens.push parent child).1 =
      if tokens.isCanceled parent then (tokens.cancel child none).1
      else tokens.update parent fun status =>
        { status with children := child :: status.children } := by
  unfold push
  split <;> rfl

theorem status_push_of_ne (uncanceled : tokens.isCanceled parent = false)
    (different : token ≠ parent) :
    (tokens.push parent child).1.status token = tokens.status token := by
  rw [push_eq, if_neg (by simp [uncanceled]), status_update_of_ne different]

theorem status_push_self (uncanceled : tokens.isCanceled parent = false)
    (cancelable : parent.isCancelable = true) (known : tokens.Known parent) :
    (tokens.push parent child).1.status parent =
      { tokens.status parent with children := child :: (tokens.status parent).children } := by
  rw [push_eq, if_neg (by simp [uncanceled])]
  cases parent with
  | uncancelable => cases cancelable
  | tracked index => exact status_update_self known

theorem size_push (uncanceled : tokens.isCanceled parent = false) :
    (tokens.push parent child).1.entries.size = tokens.entries.size := by
  rw [push_eq, if_neg (by simp [uncanceled]), size_update]

theorem isCanceled_push (uncanceled : tokens.isCanceled parent = false) (token : Token) :
    (tokens.push parent child).1.isCanceled token = tokens.isCanceled token := by
  rw [push_eq, if_neg (by simp [uncanceled]), isCanceled_update]
  exact fun _ => rfl

variable (uncanceled : tokens.isCanceled parent = false)
  (cancelable : parent.isCancelable = true) (known : tokens.Known parent)
include uncanceled cancelable known

theorem child_push {upper lower : Token} :
    (tokens.push parent child).1.Child upper lower ↔
      tokens.Child upper lower ∨ upper = parent ∧ lower = child := by
  unfold Child
  by_cases same : upper = parent
  · subst same
    rw [status_push_self uncanceled cancelable known]
    simp [or_comm]
  · rw [status_push_of_ne uncanceled same]
    simp [same]

theorem reaches_push :
    (tokens.push parent child).1.Reaches root token ↔
      tokens.Reaches root token ∨ tokens.Reaches root parent ∧ tokens.Reaches child token := by
  have edge {upper lower : Token} :
      (tokens.push parent child).1.Child upper lower ↔
        tokens.Child upper lower ∨ upper = parent ∧ lower = child :=
    child_push uncanceled cancelable known
  have more {upper lower : Token} (reached : tokens.Reaches upper lower) :
      (tokens.push parent child).1.Reaches upper lower :=
    reached.mono fun _ _ link => edge.2 (.inl link)
  constructor
  · intro reached
    induction reached with
    | refl => exact .inl .refl
    | tail _ link inductionHypothesis =>
        rcases edge.1 link with old | ⟨rfl, rfl⟩
        · rcases inductionHypothesis with direct | ⟨above, below⟩
          · exact .inl (direct.tail old)
          · exact .inr ⟨above, below.tail old⟩
        · exact .inr ⟨inductionHypothesis.elim id And.left, .refl⟩
  · rintro (direct | ⟨above, below⟩)
    · exact more direct
    · exact ((more above).tail (edge.2 (.inr ⟨rfl, rfl⟩))).trans (more below)

theorem struck_push :
    (tokens.push parent child).1.Struck root token ↔
      tokens.Struck root token ∨ tokens.Reaches root parent ∧ tokens.Struck child token := by
  have same : (tokens.push parent child).1.isCanceled token = _ := isCanceled_push uncanceled token
  have reached : (tokens.push parent child).1.Reaches root token ↔ _ :=
    reaches_push uncanceled cancelable known
  constructor
  · intro struck
    have before := same.symm.trans struck.uncanceled
    exact (reached.1 struck.reached).imp (fun direct => ⟨struck.cancelable, before, direct⟩)
      fun both => ⟨both.1, struck.cancelable, before, both.2⟩
  · rintro (struck | ⟨above, struck⟩)
    · exact ⟨struck.cancelable, same.trans struck.uncanceled, reached.2 (.inl struck.reached)⟩
    · exact ⟨struck.cancelable, same.trans struck.uncanceled,
        reached.2 (.inr ⟨above, struck.reached⟩)⟩

/-- A push onto a token that is not canceled may come before a cancellation or after it. -/
theorem Sound.cancel_push_of_uncanceled (sound : tokens.Sound) (rootKnown : tokens.Known root)
    (childKnown : tokens.Known child) (reason : Option String) :
    ((tokens.push parent child).1.cancel root reason).1 =
      ((tokens.cancel root reason).1.push parent child).1 := by
  classical
  have pushedKnown : (tokens.push parent child).1.Known root := by
    rwa [Known, size_push uncanceled]
  have pushedSound := sound.push parent childKnown
  by_cases reached : tokens.Reaches root parent
  · -- the parent is canceled in either order, and the child with it
    have struck : tokens.Struck root parent := ⟨cancelable, uncanceled, reached⟩
    rw [push_eq (tokens.cancel root reason).1,
      if_pos ((sound.isCanceled_cancel rootKnown reason parent).2 (.inr struck))]
    refine eq_of_status ?_ fun token => ?_
    · rw [pushedSound.size_cancel pushedKnown, size_push uncanceled,
        (sound.cancel rootKnown reason).size_cancel, sound.size_cancel rootKnown]
      rwa [Known, sound.size_cancel rootKnown]
    · rw [pushedSound.status_cancel pushedKnown, sound.status_cancel_cancel rootKnown childKnown]
      simp only [struck_push uncanceled cancelable known, reached, true_and]
      by_cases either : tokens.Struck root token ∨ tokens.Struck child token
      · simp [either]
      · have apart : token ≠ parent := by
          rintro rfl
          exact either (.inl struck)
        simp [either, status_push_of_ne uncanceled apart]
  · -- the parent is not canceled, and nothing that is goes by it
    have missed {token : Token} (same : token = parent) : ¬tokens.Struck root token :=
      fun struck => reached (same ▸ struck.reached)
    have after : (tokens.cancel root reason).1.isCanceled parent = false :=
      Bool.eq_false_iff.2 fun now => ((sound.isCanceled_cancel rootKnown reason parent).1 now).elim
        (by simp [uncanceled]) (missed rfl)
    have afterKnown : (tokens.cancel root reason).1.Known parent := by
      rwa [Known, sound.size_cancel rootKnown]
    refine eq_of_status ?_ fun token => ?_
    · rw [pushedSound.size_cancel pushedKnown, size_push uncanceled, size_push after,
        sound.size_cancel rootKnown]
    · rw [pushedSound.status_cancel pushedKnown]
      simp only [struck_push uncanceled cancelable known, reached, false_and, or_false]
      by_cases same : token = parent
      · subst same
        rw [if_neg (missed rfl), status_push_self after cancelable afterKnown,
          status_push_self uncanceled cancelable known, sound.status_cancel rootKnown,
          if_neg (missed rfl)]
      · rw [status_push_of_ne after same, status_push_of_ne uncanceled same,
          sound.status_cancel rootKnown]

end Push

namespace Sound

variable (sound : tokens.Sound)
include sound

/-- A push may come before a cancellation or after it, unless a parent that is canceled already
would pass on a cancellation that knows no reason to a child that gets one. -/
theorem cancel_push (parentKnown : tokens.Known parent) (childKnown : tokens.Known child)
    (rootKnown : tokens.Known root)
    (either : tokens.isCanceled parent = false ∨ reason = none) :
    ((tokens.push parent child).1.cancel root reason).1 =
      ((tokens.cancel root reason).1.push parent child).1 := by
  cases canceled : tokens.isCanceled parent with
  | false =>
      cases cancelable : parent.isCancelable with
      | true =>
          exact sound.cancel_push_of_uncanceled canceled cancelable parentKnown rootKnown
            childKnown reason
      | false =>
          cases parent with
          | tracked => cases cancelable
          | uncancelable => rfl
  | true =>
      obtain rfl : reason = none := either.resolve_left (by simp [canceled])
      have still := (sound.isCanceled_cancel rootKnown none parent).2 (.inl canceled)
      rw [push_eq, push_eq, if_pos canceled, if_pos still, sound.cancel_comm childKnown rootKnown]

theorem child_isCanceled (parentKnown : tokens.Known parent) (childKnown : tokens.Known child)
    (rootKnown : tokens.Known root) (parentCancelable : parent.isCancelable = true)
    (childCancelable : child.isCancelable = true) (reached : tokens.Reaches root parent)
    (reason : Option String) :
    ((tokens.push parent child).1.cancel root reason).1.isCanceled child = true ∧
      ((tokens.cancel root reason).1.push parent child).1.isCanceled child = true := by
  have canceledAtLeast {tokens : Tokens} (sound : tokens.Sound) (known : tokens.Known child)
      (reason : Option String) : (tokens.cancel child reason).1.isCanceled child = true := by
    rw [sound.isCanceled_cancel known]
    cases canceled : tokens.isCanceled child with
    | true => exact .inl rfl
    | false => exact .inr ⟨childCancelable, canceled, .refl⟩
  constructor
  · rw [(sound.push parent childKnown).isCanceled_cancel]
    · cases canceled : tokens.isCanceled parent with
      | true =>
          rw [push_eq, if_pos canceled]
          exact .inl (canceledAtLeast sound childKnown none)
      | false =>
          cases before : tokens.isCanceled child with
          | true => exact .inl ((Tokens.isCanceled_push canceled child).trans before)
          | false =>
              exact .inr ⟨childCancelable, (Tokens.isCanceled_push canceled child).trans before,
                (reaches_push canceled parentCancelable parentKnown).2 (.inr ⟨reached, .refl⟩)⟩
    · unfold Known
      rw [push_eq]
      split
      · rwa [sound.size_cancel childKnown]
      · rwa [size_update]
  · have above : (tokens.cancel root reason).1.isCanceled parent = true := by
      rw [sound.isCanceled_cancel rootKnown]
      cases canceled : tokens.isCanceled parent with
      | true => exact .inl rfl
      | false => exact .inr ⟨parentCancelable, canceled, reached⟩
    rw [push_eq, if_pos above]
    refine canceledAtLeast (sound.cancel rootKnown reason) ?_ none
    rwa [Known, sound.size_cancel rootKnown]

end Sound

def cancelEach (tokens : Tokens) (roots : List Token) : Tokens :=
  roots.foldl (fun tokens root => (tokens.cancel root none).1) tokens

theorem Sound.cancelEach_perm (sound : tokens.Sound) {roots others : List Token}
    (known : ∀ root ∈ roots, tokens.Known root) (reordered : roots.Perm others) :
    tokens.cancelEach roots = tokens.cancelEach others := by
  induction reordered generalizing tokens with
  | nil => rfl
  | cons root _ inductionHypothesis =>
      have rootKnown := known root (.head _)
      refine inductionHypothesis (sound.cancel rootKnown none) fun other member => ?_
      rw [Known, sound.size_cancel rootKnown]
      exact known other (.tail _ member)
  | swap second root rest =>
      refine congrArg (Tokens.cancelEach · rest) (sound.cancel_comm ?_ ?_)
      · exact known root (.head _)
      · exact known second (.tail _ (.head _))
  | trans front _ frontHypothesis backHypothesis =>
      rw [frontHypothesis sound known,
        backHypothesis sound fun root member => known root (front.mem_iff.2 member)]

end Tokens

theorem Host.tokens_cancelEach (host : Host Memory) (roots : List Token) :
    (roots.foldl (fun host root => host.cancel root none) host).tokens =
      host.tokens.cancelEach roots := by
  induction roots generalizing host with
  | nil => rfl
  | cons root _ inductionHypothesis => exact inductionHypothesis (host.cancel root none)

/-- Whatever graph calls have built of tokens, a push and a cancellation leave the same flag, reason
and children of every token in either order, as long as the parent was not canceled before or no
reason is given; so do cancellations without reasons in any order; and a child of a token that the
root reaches is canceled whichever comes first. -/
theorem cancellations_reorder (host : Host Memory) (built : host.tokens.Built) :
    (∀ (parent child root : Token) (reason : Option String), host.tokens.Known parent →
      host.tokens.Known child → host.tokens.Known root →
      (host.tokens.isCanceled parent = false ∨ reason = none) →
        ((host.push parent child).cancel root reason).tokens =
          ((host.cancel root reason).push parent child).tokens) ∧
      (∀ roots others : List Token, (∀ root ∈ roots, host.tokens.Known root) → roots.Perm others →
        (roots.foldl (fun host root => host.cancel root none) host).tokens =
          (others.foldl (fun host root => host.cancel root none) host).tokens) ∧
      ∀ (parent child root : Token) (reason : Option String), host.tokens.Known parent →
        host.tokens.Known child → host.tokens.Known root → parent.isCancelable = true →
        child.isCancelable = true → host.tokens.Reaches root parent →
          ((host.push parent child).cancel root reason).tokens.isCanceled child = true ∧
            ((host.cancel root reason).push parent child).tokens.isCanceled child = true := by
  have sound := built.sound
  refine ⟨?_, ?_, ?_⟩
  · intro parent child root reason parentKnown childKnown rootKnown either
    exact sound.cancel_push parentKnown childKnown rootKnown either
  · intro roots others known reordered
    rw [host.tokens_cancelEach, host.tokens_cancelEach, sound.cancelEach_perm known reordered]
  · intro parent child root reason parentKnown childKnown rootKnown parentCancelable
      childCancelable reached
    exact sound.child_isCanceled parentKnown childKnown rootKnown parentCancelable childCancelable
      reached reason

/-- Two tokens, the first of them below itself and above the other: the other gets the first as a
child, so that each is below the other, before or after the first is canceled. -/
theorem cancellations_reorder_cycle :
    let pair := ({} : Tokens).create.2.create.2
    let loop := (pair.push (.tracked 0) (.tracked 0)).1
    let host : Host Unit := { memory := (), tokens := (loop.push (.tracked 0) (.tracked 1)).1 }
    host.tokens.Built ∧
      ((host.push (.tracked 1) (.tracked 0)).cancel (.tracked 0) (some "stop")).tokens =
        ((host.cancel (.tracked 0) (some "stop")).push (.tracked 1) (.tracked 0)).tokens ∧
      ([.tracked 1, .uncancelable, .tracked 0].foldl (fun host root => host.cancel root none)
          host).tokens =
        ([.tracked 0, .tracked 1, .uncancelable].foldl (fun host root => host.cancel root none)
          host).tokens ∧
      ((host.push (.tracked 1) (.tracked 0)).cancel (.tracked 0) (some "stop")).tokens.isCanceled
        (.tracked 0) = true := by
  intro pair loop host
  have pairBuilt : pair.Built := .create (.create .empty)
  have built : host.tokens.Built := .push _ (.push _ pairBuilt (by decide)) (by decide)
  have link : host.tokens.Child (.tracked 0) (.tracked 1) := .head _
  obtain ⟨pushed, reordered, caught⟩ := cancellations_reorder host built
  refine ⟨built, pushed _ _ _ _ ?_ ?_ ?_ (.inl rfl), reordered _ _ ?_ ?_,
    (caught _ _ _ _ ?_ ?_ ?_ rfl rfl (.single link)).1⟩ <;> decide

end Trampoline
