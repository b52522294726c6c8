import Mathlib.Data.List.Nodup
import Trampoline.Host.Reply
import Trampoline.Proofs.Walk

/-!
What calls on tokens leave behind.

A history is a list of calls, the latest first.  From the calls alone it can be told how many tokens
there are and what is stacked on each, and what the host knows of a token is that, until a call
cancels the token: this call settles for good what is known of it.
-/

namespace Trampoline

variable {Memory : Type}

inductive Token.Call
  | new
  | child (parent : Token)
  | push (parent child : Token)
  | pop (parent : Token)
  /-- Cancel a token, with a reason or without. -/
  | cancel (token : Token) (reason : Option String)

namespace Token.Call

def names : Call → List Token
  | .new => []
  | .child parent | .pop parent => [parent]
  | .push parent pushed => [parent, pushed]
  | .cancel token _ => [token]

/-- The reason that a call gives for the cancellation of a token: only a call that cancels the token
itself gives one. -/
def reasonFor (token : Token) : Call → Option String
  | .cancel other reason => if token = other then reason else none
  | _ => none

def created : List Call → Nat
  | [] => 0
  | .new :: calls | .child _ :: calls => created calls + 1
  | .push _ _ :: calls | .pop _ :: calls | .cancel _ _ :: calls => created calls

/-- Every call of a history is about tokens that had been created. -/
def Allowed : List Call → Prop
  | [] => True
  | call :: calls => (∀ token ∈ call.names, token.number ≤ created calls) ∧ Allowed calls

/-- What the pushes onto a token and the pops from it leave on its stack, the top first. -/
def stack (token : Token) : List Call → List Token
  | [] => []
  | .push parent pushed :: calls =>
      if parent = token then pushed :: stack token calls else stack token calls
  | .child parent :: calls =>
      if parent = token then .tracked (created calls) :: stack token calls else stack token calls
  | .pop parent :: calls => if parent = token then (stack token calls).tail else stack token calls
  | .new :: calls | .cancel _ _ :: calls => stack token calls

end Token.Call

def Entry.requested? : Entry → Option Nat
  | .event (.cancellationRequested token) => some token
  | _ => none

namespace Host

def call (host : Host Memory) : Token.Call → Host Memory
  | .new => (host.reply .newToken).2
  | .child parent =>
      let (child, host) := host.reply .newToken
      (host.reply (.push parent child)).2
  | .push parent child => (host.reply (.push parent child)).2
  | .pop parent => (host.reply (.pop parent)).2
  | .cancel token reason => (host.reply (.cancel token reason)).2

def calls (host : Host Memory) : List Token.Call → Host Memory
  | [] => host
  | call :: calls => (host.calls calls).call call

/-- The numbers of the tokens whose cancellation was reported, the latest first. -/
def requested (host : Host Memory) : List Nat :=
  host.journal.filterMap Entry.requested?

end Host

namespace Tokens

variable {tokens between after : Tokens} {token root parent child : Token} {reason : Option String}
  {order : List Nat} {given : Token → Option String}

/-- From one store to a later one, nothing changes for the tokens that were canceled, and those that
come to be canceled have the reasons that are given and no children. -/
structure Settles (tokens after : Tokens) (given : Token → Option String) : Prop where
  canceled : ∀ token, tokens.isCanceled token = true → after.status token = tokens.status token
  canceling : ∀ token, tokens.isCanceled token = false → after.isCanceled token = true →
    after.status token = { canceled := true, reason := given token, children := [] }

namespace Settles

theorem within (settles : tokens.Settles after given) : tokens.Within after := by
  intro token canceled
  rw [isCanceled, settles.canceled token canceled]
  exact canceled

theorem trans (first : tokens.Settles between given) (second : between.Settles after given) :
    tokens.Settles after given where
  canceled token canceled := by
    rw [second.canceled token (first.within token canceled), first.canceled token canceled]
  canceling token before now := by
    cases canceled : between.isCanceled token with
    | true => rw [second.canceled token canceled, first.canceling token before canceled]
    | false => exact second.canceling token canceled now

theorem of_same (same : ∀ token, after.isCanceled token = tokens.isCanceled token)
    (kept : ∀ token, tokens.isCanceled token = true → after.status token = tokens.status token) :
    tokens.Settles after given where
  canceled := kept
  canceling token before now := by
    rw [same, before] at now
    cases now

theorem create (tokens : Tokens) : tokens.Settles tokens.create.2 given :=
  of_same (fun token => by simp [isCanceled]) fun token _ => status_create tokens token

theorem refl (tokens : Tokens) : tokens.Settles tokens given :=
  of_same (fun _ => rfl) fun _ _ => rfl

theorem update {change : Token.Status → Token.Status}
    (uncanceled : tokens.isCanceled token = false)
    (flag : ∀ status, (change status).canceled = status.canceled) :
    tokens.Settles (tokens.update token change) given := by
  have apart (other : Token) (canceled : tokens.isCanceled other = true) : other ≠ token := by
    rintro rfl
    rw [uncanceled] at canceled
    cases canceled
  refine of_same (fun other => ?_) fun other canceled => status_update_of_ne (apart other canceled)
  exact isCanceled_update flag other

theorem push (sound : tokens.Sound) (parent : Token) (known : tokens.Known child) :
    tokens.Settles (tokens.push parent child).1 fun _ => none := by
  unfold Tokens.push
  split
  · obtain ⟨order, cancels, _⟩ := sound.cancels known none
    exact ⟨fun token canceled => cancels.settled canceled, fun token before now => by
      simpa using cancels.marked token before now⟩
  · rename_i uncanceled
    exact update (by simpa using uncanceled) fun _ => rfl

theorem pop (sound : tokens.Sound) (parent : Token) :
    tokens.Settles (tokens.pop parent).2 given := by
  unfold Tokens.pop
  split
  · exact refl tokens
  · rename_i child rest found
    refine update ?_ fun _ => rfl
    cases canceled : tokens.isCanceled parent with
    | false => rfl
    | true =>
        rw [sound.childless canceled] at found
        cases found

theorem cancel (sound : tokens.Sound) (known : tokens.Known root) (reason : Option String) :
    tokens.Settles (tokens.cancel root reason).1
      fun token => if token = root then reason else none := by
  obtain ⟨order, cancels, _⟩ := sound.cancels known reason
  exact ⟨fun token canceled => cancels.settled canceled, cancels.marked⟩

end Settles

end Tokens

namespace Host

variable {host : Host Memory} {after : Tokens} {root parent token : Token} {order : List Nat}
  {reason : Option String} {calls : List Token.Call}

/-- The cancellations that were reported are those of the canceled tokens, each once. -/
structure Reports (host : Host Memory) : Prop where
  once : host.requested.Nodup
  exact : ∀ token : Token, token.number ∈ host.requested ↔ host.tokens.isCanceled token = true

theorem Reports.of_same (reports : host.Reports)
    (same : ∀ token, after.isCanceled token = host.tokens.isCanceled token) :
    ({ host with tokens := after } : Host Memory).Reports :=
  ⟨reports.once, fun token => by rw [same]; exact reports.exact token⟩

theorem requested_emitCanceled (host : Host Memory) (order : List Nat) :
    (host.emitCanceled order.reverse).requested =
      (order.map (· + 1)).reverse ++ host.requested := by
  have reported (indices : List Nat) :
      (indices.map fun index => Entry.event (.cancellationRequested (index + 1))).filterMap
        Entry.requested? = indices.map (· + 1) := by
    rw [List.filterMap_map, ← List.filterMap_eq_map]
    rfl
  simp [requested, emitCanceled, reported]

theorem Reports.cancels (reports : host.Reports)
    (cancels : host.tokens.Cancels root reason after order) :
    (({ host with tokens := after } : Host Memory).emitCanceled order.reverse).Reports := by
  constructor
  · rw [requested_emitCanceled]
    refine List.nodup_append.2 ⟨?_, reports.once, fun number latest other older same => ?_⟩
    · exact List.nodup_reverse.2 (cancels.once.map fun _ _ => Nat.succ.inj)
    · obtain ⟨index, member, rfl⟩ := List.mem_map.1 (List.mem_reverse.1 latest)
      subst same
      have before := (reports.exact (.tracked index)).1 older
      rw [((cancels.latest index).1 member).1] at before
      cases before
  · intro token
    rw [requested_emitCanceled, List.mem_append]
    show _ ∨ token.number ∈ host.requested ↔ after.isCanceled token = true
    rw [reports.exact]
    cases token with
    | uncancelable => simp [Token.number]
    | tracked index =>
        have member : (Token.tracked index).number ∈ (order.map (· + 1)).reverse ↔ index ∈ order := by
          simp [Token.number]
        rw [member, cancels.latest]
        cases before : host.tokens.isCanceled (.tracked index) with
        | false => simp
        | true => simpa using (cancels.canceled _).2 (.inl before)

/-- A host and the history of calls that led to it tell the same. -/
structure Follows (host : Host Memory) (calls : List Token.Call) : Prop where
  created : host.tokens.entries.size = Token.Call.created calls
  built : host.tokens.Built
  stacked : ∀ index, host.tokens.isCanceled (.tracked index) = false →
    (host.tokens.status (.tracked index)).children = Token.Call.stack (.tracked index) calls
  reports : host.Reports

theorem call_cancel (host : Host Memory) (token : Token) (reason : Option String) :
    host.call (.cancel token reason) =
      ({ host with tokens := (host.tokens.cancel token reason).1 } : Host Memory).emitCanceled
        (host.tokens.cancel token reason).2 := rfl

theorem call_push (host : Host Memory) (parent child : Token) :
    host.call (.push parent child) =
      ({ host with tokens := (host.tokens.push parent child).1 } : Host Memory).emitCanceled
        (host.tokens.push parent child).2 := rfl

theorem call_pop (host : Host Memory) (parent : Token) :
    host.call (.pop parent) = { host with tokens := (host.tokens.pop parent).2 } := rfl

namespace Follows

theorem fresh (memory : Memory) : ({ memory } : Host Memory).Follows [] where
  created := rfl
  built := .empty
  stacked _ _ := rfl
  reports := ⟨.nil, fun token => by cases token <;> simp [requested, Tokens.isCanceled, Tokens.status]⟩

variable (follows : host.Follows calls)
include follows

theorem known : host.tokens.Known token ↔ token.number ≤ Token.Call.created calls := by
  rw [Tokens.Known, follows.created]

theorem new : (host.call .new).Follows (.new :: calls) where
  created := by
    show host.tokens.create.2.entries.size = _
    rw [Tokens.size_create, follows.created, Token.Call.created]
  built := .create follows.built
  stacked index uncanceled := by
    show (host.tokens.create.2.status _).children = _
    rw [Tokens.status_create]
    exact follows.stacked index (by rwa [← Tokens.isCanceled_create])
  reports := follows.reports.of_same fun token => Tokens.isCanceled_create _ _

theorem update {more : List Token.Call} (change : List Token → List Token)
    (known : host.tokens.Known parent)
    (built : (host.tokens.update parent fun status =>
      { status with children := change status.children }).Built)
    (created : Token.Call.created more = Token.Call.created calls)
    (stacked : ∀ index, Token.Call.stack (.tracked index) more =
      if parent = .tracked index then change (Token.Call.stack (.tracked index) calls)
      else Token.Call.stack (.tracked index) calls) :
    ({ host with
        tokens := host.tokens.update parent fun status =>
          { status with children := change status.children } } : Host Memory).Follows more := by
  have flags : ∀ token, (host.tokens.update parent fun status =>
      { status with children := change status.children }).isCanceled token =
        host.tokens.isCanceled token :=
    Tokens.isCanceled_update fun _ => rfl
  refine ⟨?_, built, fun index uncanceled => ?_, follows.reports.of_same flags⟩
  · rw [created, ← follows.created]
    exact Tokens.size_update _ _ _
  · rw [stacked, ← follows.stacked index ((flags _).symm.trans uncanceled)]
    split
    · rename_i same
      subst same
      exact congrArg Token.Status.children
        (Tokens.status_update_self (Tokens.known_tracked.1 known))
    · rename_i apart
      exact congrArg Token.Status.children (Tokens.status_update_of_ne (Ne.symm apart))

theorem cancels {more : List Token.Call} (cancels : host.tokens.Cancels root reason after order)
    (built : after.Built) (created : Token.Call.created more = Token.Call.created calls)
    (stacked : ∀ index, after.isCanceled (.tracked index) = false →
      Token.Call.stack (.tracked index) more = Token.Call.stack (.tracked index) calls) :
    (({ host with tokens := after } : Host Memory).emitCanceled order.reverse).Follows more where
  created := by
    rw [created, ← follows.created]
    exact cancels.created
  built := built
  stacked index (uncanceled : after.isCanceled (.tracked index) = false) := by
    have before : host.tokens.isCanceled (.tracked index) = false := by
      cases before : host.tokens.isCanceled (.tracked index) with
      | false => rfl
      | true => exact absurd ((cancels.canceled _).2 (.inl before)) (by simp [uncanceled])
    rw [stacked index uncanceled, ← follows.stacked index before]
    exact congrArg Token.Status.children (cancels.kept _ (before.trans uncanceled.symm))
  reports := follows.reports.cancels cancels

theorem cancel (known : host.tokens.Known token) (reason : Option String) :
    (host.call (.cancel token reason)).Follows (.cancel token reason :: calls) := by
  obtain ⟨order, cancels, latest⟩ := follows.built.sound.cancels known reason
  rw [call_cancel, latest]
  exact follows.cancels cancels (.cancel reason follows.built known) rfl fun _ _ => rfl

theorem push {child : Token} (parentKnown : host.tokens.Known parent)
    (known : host.tokens.Known child) :
    (host.call (.push parent child)).Follows (.push parent child :: calls) := by
  have built := Tokens.Built.push parent follows.built known
  rw [call_push]
  cases canceled : host.tokens.isCanceled parent with
  | true =>
      have pushed : host.tokens.push parent child = host.tokens.cancel child none := if_pos canceled
      obtain ⟨order, cancels, latest⟩ := follows.built.sound.cancels known none
      rw [pushed] at built ⊢
      rw [latest]
      refine follows.cancels cancels built rfl fun index uncanceled => if_neg ?_
      rintro rfl
      rw [(cancels.canceled _).2 (.inl canceled)] at uncanceled
      cases uncanceled
  | false =>
      have pushed : host.tokens.push parent child =
          (host.tokens.update parent fun status =>
            { status with children := child :: status.children }, []) :=
        if_neg (by simp [canceled])
      rw [pushed] at built ⊢
      exact follows.update (child :: ·) parentKnown built rfl fun index => rfl

theorem pop (known : host.tokens.Known parent) :
    (host.call (.pop parent)).Follows (.pop parent :: calls) := by
  have built := Tokens.Built.pop parent follows.built
  rw [call_pop]
  cases found : (host.tokens.status parent).children with
  | nil =>
      have popped : host.tokens.pop parent = (none, host.tokens) := by simp [Tokens.pop, found]
      rw [popped]
      refine ⟨follows.created, follows.built, fun index uncanceled => ?_, follows.reports⟩
      rw [follows.stacked index uncanceled, Token.Call.stack]
      split
      · rename_i same
        subst same
        rw [← follows.stacked index uncanceled, found]
        rfl
      · rfl
  | cons child rest =>
      have popped : host.tokens.pop parent =
          (some child, host.tokens.update parent fun status => { status with children := rest }) := by
        simp [Tokens.pop, found]
      rw [popped] at built ⊢
      refine follows.update (fun _ => rest) known built rfl fun index => ?_
      rw [Token.Call.stack]
      split
      · rename_i same
        subst same
        have uncanceled : host.tokens.isCanceled (.tracked index) = false := by
          cases canceled : host.tokens.isCanceled (.tracked index) with
          | false => rfl
          | true =>
              rw [follows.built.sound.childless canceled] at found
              cases found
        rw [← follows.stacked index uncanceled, found]
        rfl
      · rfl

theorem known_new : (host.call .new).tokens.Known (.tracked (Token.Call.created calls)) := by
  show _ ≤ host.tokens.create.2.entries.size
  rw [Tokens.size_create, follows.created]
  exact Nat.le_refl _

theorem call_child (parent : Token) :
    host.call (.child parent) =
      (host.call .new).call (.push parent (.tracked (Token.Call.created calls))) := by
  rw [← follows.created]
  rfl

theorem child (known : host.tokens.Known parent) :
    (host.call (.child parent)).Follows (.child parent :: calls) := by
  have still : (host.call .new).tokens.Known parent := by
    show _ ≤ host.tokens.create.2.entries.size
    rw [Tokens.size_create]
    exact Nat.le_succ_of_le known
  have pushed := follows.new.push still follows.known_new
  rw [follows.call_child]
  exact ⟨pushed.created, pushed.built, pushed.stacked, pushed.reports⟩

theorem call {call : Token.Call}
    (named : ∀ token ∈ call.names, token.number ≤ Token.Call.created calls) :
    (host.call call).Follows (call :: calls) := by
  have known (token : Token) (name : token ∈ call.names) : host.tokens.Known token :=
    follows.known.2 (named token name)
  cases call with
  | new => exact follows.new
  | child parent => exact follows.child (known parent (by simp [Token.Call.names]))
  | push parent pushed =>
      exact follows.push (known parent (by simp [Token.Call.names]))
        (known pushed (by simp [Token.Call.names]))
  | pop parent => exact follows.pop (known parent (by simp [Token.Call.names]))
  | cancel token reason => exact follows.cancel (known token (by simp [Token.Call.names])) reason

theorem settles {call : Token.Call}
    (named : ∀ token ∈ call.names, token.number ≤ Token.Call.created calls) :
    host.tokens.Settles (host.call call).tokens call.reasonFor := by
  have sound := follows.built.sound
  cases call with
  | new => exact .create _
  | child parent =>
      rw [follows.call_child]
      exact (Tokens.Settles.create _).trans
        (.push follows.new.built.sound parent follows.known_new)
  | push parent pushed =>
      exact .push sound parent (follows.known.2 (named pushed (by simp [Token.Call.names])))
  | pop parent => exact .pop sound parent
  | cancel token reason =>
      exact .cancel sound (follows.known.2 (named token (by simp [Token.Call.names]))) reason

end Follows

section Histories

variable {memory : Memory}

theorem follows_calls (memory : Memory) (allowed : Token.Call.Allowed calls) :
    (({ memory } : Host Memory).calls calls).Follows calls := by
  induction calls with
  | nil => exact .fresh memory
  | cons call calls inductionHypothesis => exact (inductionHypothesis allowed.2).call allowed.1

theorem allowed_of_append {later : List Token.Call}
    (allowed : Token.Call.Allowed (later ++ calls)) : Token.Call.Allowed calls := by
  induction later with
  | nil => exact allowed
  | cons call later inductionHypothesis => exact inductionHypothesis allowed.2

theorem status_calls_of_isCanceled {later : List Token.Call}
    (allowed : Token.Call.Allowed (later ++ calls))
    (canceled : (({ memory } : Host Memory).calls calls).tokens.isCanceled token = true) :
    (({ memory } : Host Memory).calls (later ++ calls)).tokens.status token =
      (({ memory } : Host Memory).calls calls).tokens.status token := by
  induction later with
  | nil => rfl
  | cons call later inductionHypothesis =>
      have before := inductionHypothesis allowed.2
      have settles := (follows_calls memory allowed.2).settles allowed.1
      have still : (({ memory } : Host Memory).calls (later ++ calls)).tokens.isCanceled token =
          true := by
        rw [Tokens.isCanceled, before]
        exact canceled
      exact (settles.canceled token still).trans before

theorem exists_canceling
    (canceled : (({ memory } : Host Memory).calls calls).tokens.isCanceled token = true) :
    ∃ later call earlier, calls = later ++ call :: earlier ∧
      (({ memory } : Host Memory).calls earlier).tokens.isCanceled token = false ∧
      (({ memory } : Host Memory).calls (call :: earlier)).tokens.isCanceled token = true := by
  induction calls with
  | nil => cases token <;> simp [Host.calls, Tokens.isCanceled, Tokens.status] at canceled
  | cons call calls inductionHypothesis =>
      cases before : (({ memory } : Host Memory).calls calls).tokens.isCanceled token with
      | false => exact ⟨[], call, calls, rfl, before, canceled⟩
      | true =>
          obtain ⟨later, first, earlier, rfl, uncanceled, now⟩ := inductionHypothesis before
          exact ⟨call :: later, first, earlier, rfl, uncanceled, now⟩

end Histories

end Host

/-- What a host knows of tokens after a history of calls. -/
structure Host.KeepsAccount (start : Host Memory) (calls : List Token.Call) : Prop where
  /-- A canceled token has no children. -/
  childless (token : Token) : (start.calls calls).tokens.isCanceled token = true →
    ((start.calls calls).tokens.status token).children = []
  /-- What is known of a canceled token stays, whatever is called later. -/
  final (token : Token) : (start.calls calls).tokens.isCanceled token = true →
    ∀ later, Token.Call.Allowed (later ++ calls) →
      (start.calls (later ++ calls)).tokens.status token = (start.calls calls).tokens.status token
  /-- A token that is not canceled has no reason, and its check passes. -/
  unexplained (token : Token) : (start.calls calls).tokens.isCanceled token = false →
    ((start.calls calls).tokens.status token).reason = none ∧
      ((start.calls calls).reply (.status token)).1.check = .ok ()
  /-- A token that is canceled was canceled by a call. -/
  canceling (token : Token) : (start.calls calls).tokens.isCanceled token = true →
    ∃ later call earlier, calls = later ++ call :: earlier ∧
      (start.calls earlier).tokens.isCanceled token = false ∧
      (start.calls (call :: earlier)).tokens.isCanceled token = true
  /-- The reason is the one that this call gives for the token, and its check fails with it. -/
  explained (token : Token) (later : List Token.Call) (call : Token.Call)
    (earlier : List Token.Call) : calls = later ++ call :: earlier →
    (start.calls earlier).tokens.isCanceled token = false →
    (start.calls (call :: earlier)).tokens.isCanceled token = true →
    (start.calls calls).tokens.status token =
        { canceled := true, reason := call.reasonFor token, children := [] } ∧
      ((start.calls calls).reply (.status token)).1.check = .error (call.reasonFor token)
  /-- Cancellations are reported of the canceled tokens, once each. -/
  reports : (start.calls calls).Reports
  /-- A token that is pushed onto a canceled one is canceled. -/
  late (parent child : Token) : parent.number ≤ Token.Call.created calls →
    child.number ≤ Token.Call.created calls → child.isCancelable = true →
    (start.calls calls).tokens.isCanceled parent = true →
    (start.calls (.push parent child :: calls)).tokens.isCanceled child = true
  /-- A new child of a canceled token is canceled. -/
  stillborn (parent : Token) : parent.number ≤ Token.Call.created calls →
    (start.calls calls).tokens.isCanceled parent = true →
    (start.calls (.child parent :: calls)).tokens.isCanceled
      (.tracked (Token.Call.created calls)) = true
  /-- The children of a token that is not canceled are what pushes and pops leave on a stack. -/
  stacked (token : Token) : token.isCancelable = true →
    (start.calls calls).tokens.isCanceled token = false →
    ((start.calls calls).tokens.status token).children = Token.Call.stack token calls ∧
      ((start.calls calls).reply (.pop token)).1 = (Token.Call.stack token calls).head?
  /-- Calls on the uncancelable token change nothing. -/
  uncancelable : (start.calls calls).tokens.status .uncancelable = {} ∧
    (∀ reason, (start.calls calls).call (.cancel .uncancelable reason) = start.calls calls) ∧
    (∀ child, (start.calls calls).call (.push .uncancelable child) = start.calls calls) ∧
    (start.calls calls).call (.pop .uncancelable) = start.calls calls

theorem Tokens.pop_eq_head (tokens : Tokens) (parent : Token) :
    (tokens.pop parent).1 = (tokens.status parent).children.head? := by
  cases found : (tokens.status parent).children <;> simp [pop, found]

theorem Tokens.cancel_uncancelable (tokens : Tokens) (reason : Option String) :
    tokens.cancel .uncancelable reason = (tokens, []) := by
  simp [cancel, cascade]

theorem Tokens.Sound.isCanceled_push {tokens : Tokens} {parent child : Token} (sound : tokens.Sound)
    (known : tokens.Known child) (cancelable : child.isCancelable = true)
    (canceled : tokens.isCanceled parent = true) :
    (tokens.push parent child).1.isCanceled child = true := by
  obtain ⟨order, cancels, _⟩ := sound.cancels known none
  rw [Tokens.push, if_pos canceled]
  exact (cancels.canceled child).2 (.inr ⟨cancelable, cancelable, .refl⟩)

/-- Whatever calls are made, in whatever order: what a host knows of a token is what the calls on it
leave on its stack, until one call cancels it, which is reported once and settles it for good. -/
theorem token_calls_keep_account (memory : Memory) (calls : List Token.Call)
    (allowed : Token.Call.Allowed calls) :
    ({ memory } : Host Memory).KeepsAccount calls := by
  have follows := Host.follows_calls memory allowed
  have sound := follows.built.sound
  constructor
  · exact fun token => sound.childless
  · exact fun token canceled later more => Host.status_calls_of_isCanceled more canceled
  · intro token uncanceled
    refine ⟨(sound token).unexplained uncanceled, if_neg fun canceled => ?_⟩
    exact absurd (canceled.symm.trans uncanceled) (by simp)
  · exact fun token => Host.exists_canceling
  · intro token later call earlier split before now
    subst split
    have settles := (Host.follows_calls memory
      (Host.allowed_of_append allowed).2).settles (Host.allowed_of_append allowed).1
    have settled := (Host.status_calls_of_isCanceled allowed now).trans
      (settles.canceling token before now)
    refine ⟨settled, ?_⟩
    show Token.Status.check (Tokens.status _ token) = _
    rw [settled]
    rfl
  · exact follows.reports
  · intro parent child _ known cancelable canceled
    exact sound.isCanceled_push (follows.known.2 known) cancelable canceled
  · intro parent _ canceled
    rw [Host.calls, follows.call_child]
    exact follows.new.built.sound.isCanceled_push follows.known_new rfl
      ((Tokens.isCanceled_create _ parent).trans canceled)
  · intro token cancelable uncanceled
    cases token with
    | uncancelable => cases cancelable
    | tracked index =>
        have stacked := follows.stacked index uncanceled
        exact ⟨stacked, stacked ▸ Tokens.pop_eq_head _ _⟩
  · refine ⟨rfl, fun reason => ?_, fun child => rfl, rfl⟩
    rw [Host.call_cancel, Tokens.cancel_uncancelable]
    rfl

/-- A token with a child is pushed onto itself, popped again and canceled, and has another child after
that. -/
theorem token_calls_keep_account_family :
    let calls : List Token.Call :=
      [.child (.tracked 0), .cancel (.tracked 0) (some "stop"), .pop (.tracked 0),
        .push (.tracked 0) (.tracked 0), .child (.tracked 0), .push .uncancelable (.tracked 0), .new]
    Token.Call.Allowed calls ∧ ({ memory := () } : Host Unit).KeepsAccount calls := by
  intro calls
  have allowed : Token.Call.Allowed calls := by
    simp [calls, Token.Call.Allowed, Token.Call.names, Token.Call.created, Token.number]
  exact ⟨allowed, token_calls_keep_account () calls allowed⟩

end Trampoline
