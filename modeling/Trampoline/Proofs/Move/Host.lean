import Trampoline.Machine.Next
import Trampoline.Proofs.Move.Upshot
import Trampoline.Proofs.Situation
import Trampoline.Proofs.Tokens

/-!
What a move keeps of the host, and who may complete a boundary with cancellation.

Tokens stay canceled and plans stay held, whatever a machine does.  Code completes a boundary with a
result and a registration with its panic, so that cancellation comes from the outcome of a run.
-/

namespace Trampoline

variable {Memory : Type} {last : Form}

/-- What is canceled or held on the first host is so on the second. -/
structure Host.Outlasts (host after : Host Memory) : Prop where
  tokens : host.tokens.Within after.tokens
  held : ∀ (kept : Nat) (plan : Plan Memory), host.kept[kept]? = some plan →
    after.kept[kept]? = some plan

namespace Host.Outlasts

variable {host between after : Host Memory}

theorem trans (first : host.Outlasts between) (second : between.Outlasts after) :
    host.Outlasts after :=
  ⟨first.tokens.trans second.tokens,
    fun kept plan found => second.held kept plan (first.held kept plan found)⟩

theorem of_same (tokens : after.tokens = host.tokens) (kept : after.kept = host.kept) :
    host.Outlasts after :=
  ⟨tokens ▸ .refl _, fun _ _ found => kept ▸ found⟩

theorem of_tokens (tokens : host.tokens.Within after.tokens) (kept : after.kept = host.kept) :
    host.Outlasts after :=
  ⟨tokens, fun _ _ found => kept ▸ found⟩

theorem refl (host : Host Memory) : host.Outlasts host := .of_same rfl rfl

theorem keep (host : Host Memory) (plan : Plan Memory) : host.Outlasts (host.keep plan).2 := by
  refine ⟨.refl _, fun kept other found => ?_⟩
  rw [Host.keep, Array.getElem?_push]
  split
  · rename_i outside
    rw [outside, Array.getElem?_size] at found
    cases found
  · exact found

theorem readSettings (host : Host Memory) : host.Outlasts host.readSettings.2 := by
  unfold Host.readSettings
  split <;> exact of_same rfl rfl

theorem report (host : Host Memory) (payload : Payload) : host.Outlasts (host.report payload) := by
  unfold Host.report
  split <;> exact of_same rfl rfl

theorem reply (host : Host Memory) (request : Request Memory) :
    host.Outlasts (host.reply request).2 := by
  cases request with
  | newToken => exact of_tokens host.tokens.within_create rfl
  | cancel token reason => exact of_tokens (host.tokens.within_cancel token reason) rfl
  | push parent child => exact of_tokens (host.tokens.within_push parent child) rfl
  | pop parent => exact of_tokens (host.tokens.within_pop parent) rfl
  | settings => exact readSettings host
  | _ =>
      simp only [Host.reply, install]
      (try split) <;> exact of_same rfl rfl

end Host.Outlasts

/-- Cancellation completes a boundary on behalf of a run only. -/
def Focus.Honest : Focus Memory last → Prop
  | .complete _ outcome callers => outcome = .canceled → callers.maker = .run
  | _ => True

structure Machine.Keeps (host : Host Memory) (after : Machine Memory last) : Prop where
  host : host.Outlasts after.host
  honest : after.focus.Honest

namespace Machine

variable {form rest : Form} {host between : Host Memory}

theorem Keeps.of_same {after : Machine Memory last} (tokens : after.host.tokens = host.tokens)
    (kept : after.host.kept = host.kept) (honest : after.focus.Honest) : Keeps host after :=
  ⟨.of_same tokens kept, honest⟩

theorem Keeps.later {after : Machine Memory last} (keeps : Keeps between after)
    (outlasts : host.Outlasts between) : Keeps host after :=
  ⟨outlasts.trans keeps.host, keeps.honest⟩

theorem keeps_perform (task : Task Memory) (callers : Callers Memory last .unit)
    (host : Host Memory) : Keeps host (perform task callers host) := by
  cases task <;> exact .of_same rfl rfl trivial

theorem keeps_spawn (name : Option String) (caller : Caller Memory form rest)
    (body : Callers Memory last form → Host Memory → Machine Memory last)
    (callers : Callers Memory last rest) (host : Host Memory)
    (inner : ∀ callers host, Keeps host (body callers host)) :
    Keeps host (spawn name caller body callers host) := by
  unfold spawn
  split
  · exact .of_same rfl rfl trivial
  · exact (inner _ _).later (.of_same rfl rfl)

theorem keeps_execute (context : Context Memory) (task : Task Memory)
    (callers : Callers Memory last .unit) (host : Host Memory) :
    Keeps host (execute context task callers host) := by
  cases context with
  | immediate => exact keeps_perform task callers host
  | spawner spawner label =>
      exact (keeps_spawn _ _ _ _ _ (keeps_perform task)).later (.of_same rfl rfl)
  | custom name schedule => exact .of_same rfl rfl trivial

end Machine

theorem Registration.keeps_call (registration : Registration Memory) (token : Token)
    (completer : Completer) (callers : Callers Memory last .unit) (host : Host Memory) :
    Machine.Keeps host (registration.call token completer callers host) := by
  cases registration with
  | calling register => exact .of_same rfl rfl trivial
  | hopping source context =>
      exact (Machine.keeps_execute context _ callers _).later (.of_same rfl rfl)
  | finishing head pending => exact .of_same rfl rfl trivial

namespace Loop

variable {form : Form} {host : Host Memory} {callers : Callers Memory last form}

theorem keeps_stop {callers : Callers Memory last .plan} (pending : Stack (Frame Memory))
    (head : Plan Memory) : Machine.Keeps host (stop pending head callers host) := by
  unfold stop
  split <;> exact .of_same rfl rfl trivial

theorem keeps_descend (loop : Loop Memory form) (frame : Frame Memory) (source : Plan Memory) :
    Machine.Keeps host (loop.descend frame source callers host) := by
  obtain ⟨purpose, pending, token⟩ := loop
  simp only [descend, push]
  split
  · exact ⟨.readSettings host, trivial⟩
  · exact .of_same rfl rfl trivial

theorem keeps_iterate (loop : Loop Memory form) (plan : Plan Memory) :
    Machine.Keeps host (loop.iterate plan callers host) := by
  obtain ⟨purpose, pending, token⟩ := loop
  cases purpose with
  | run run =>
      simp only [iterate]
      split
      · exact .of_same rfl rfl trivial
      · cases plan with
        | async registration => exact (registration.keeps_call ..).later (.of_same rfl rfl)
        | bind | map | handle | redeem => exact keeps_descend ⟨.run run, pending, token⟩ _ _
        | _ => exact .of_same rfl rfl trivial
  | step =>
      cases plan with
      | async | switch => exact keeps_stop ..
      | bind | map | handle | redeem => exact keeps_descend ⟨.step, pending, token⟩ _ _
      | _ => exact .of_same rfl rfl trivial

theorem keeps_feed (loop : Loop Memory form) (result : Result) :
    Machine.Keeps host (loop.feed result callers host) := by
  obtain ⟨purpose, pending, token⟩ := loop
  simp only [feed]
  split
  · cases purpose <;> exact .of_same rfl rfl trivial
  · rename_i frame rest found
    cases frame <;> cases result <;> exact .of_same rfl rfl trivial

theorem outlasts_changeToken (loop : Loop Memory form) (token : Token) (event : Event) :
    host.Outlasts (loop.changeToken token (host.emit event)).2 := by
  obtain ⟨purpose, pending, current⟩ := loop
  cases purpose <;> exact .of_same rfl rfl

theorem keeps_goUnder (loop : Loop Memory form) (token : Token) (source : Plan Memory)
    (restore : Option (Result → Token → Token → Code Memory .token)) :
    Machine.Keeps host (loop.goUnder token source restore callers host) := by
  unfold goUnder
  split
  · exact .of_same rfl rfl trivial
  · cases restore with
    | none => exact ⟨loop.outlasts_changeToken .., trivial⟩
    | some restore => exact (keeps_descend _ _ _).later (loop.outlasts_changeToken ..)

theorem keeps_goBackTo (loop : Loop Memory form) (token : Token) (result : Result) :
    Machine.Keeps host (loop.goBackTo token result callers host) := by
  unfold goBackTo
  split
  · exact .of_same rfl rfl trivial
  · exact ⟨loop.outlasts_changeToken .., trivial⟩

end Loop

namespace Machine

variable {host : Host Memory} {callers : Callers Memory last .unit}

theorem Detached.keeps {run epoch : Nat} {token : Token} {after : Machine Memory last}
    (detached : Detached host run epoch token callers after) : Keeps host after := by
  cases detached with
  | unbounded | waits | crossed => exact .of_same rfl rfl trivial
  | @takesUp _ _ outcome => cases outcome <;> exact .of_same rfl rfl trivial

theorem Completed.keeps {completer : Completer} {outcome : Outcome Value}
    {after : Machine Memory last} (completed : Completed host completer outcome callers after) :
    Keeps host after := by
  cases completed with
  | ignored | parked => exact .of_same rfl rfl trivial
  | resumes => cases outcome <;> exact .of_same rfl rfl trivial

theorem Ended.keeps {run : Nat} {outcome : Outcome Value} {after : Machine Memory last}
    (ended : Ended host run outcome callers after) : Keeps host after := by
  cases ended with
  | unknown | told | calls | drops => exact .of_same rfl rfl trivial
  | forwards => exact .of_same rfl rfl fun _ => rfl

theorem keeps_answer {form : Form} (callers : Callers Memory last form)
    (answer : Answer Memory form) : Keeps host (callers.answer answer host) := by
  cases callers with
  | bottom => exact .of_same rfl rfl trivial
  | push caller callers =>
      cases caller with
      | stepping next =>
          cases answer with
          | plan plan => exact ⟨.keep host plan, trivial⟩
      | switching loop source restore =>
          cases answer
          exact (loop.keeps_goUnder ..).later (.of_same rfl rfl)
      | restoring loop result =>
          cases answer
          exact (loop.keeps_goBackTo ..).later (.of_same rfl rfl)
      | registering run epoch token =>
          cases answer
          exact (detached ..).keeps.later (.of_same rfl rfl)
      | detaching run epoch token =>
          cases answer
          exact (detached ..).keeps
      | _ => cases answer; exact .of_same rfl rfl trivial

theorem keeps_unwind {form : Form} (callers : Callers Memory last form) (payload : Payload) :
    Keeps host (callers.unwind payload host) := by
  cases callers with
  | bottom => exact .of_same rfl rfl trivial
  | push caller callers =>
      cases caller with
      | registering => exact .of_same rfl rfl (fun canceled => by cases canceled)
      | _ => exact .of_same rfl rfl trivial

theorem keeps_evaluate {form : Form} (code : Code Memory form)
    (callers : Callers Memory last form) : Keeps host (evaluate code callers host) := by
  cases code with
  | done answer => exact keeps_answer callers answer
  | ask request next => exact ⟨.reply host request, trivial⟩
  | panic payload silent =>
      simp only [evaluate]
      split
      · exact .of_same rfl rfl trivial
      · exact ⟨.report host payload, trivial⟩
  | onThread name body next =>
      exact keeps_spawn name _ (fun callers host => ⟨.code (body ()) callers, host⟩) callers host
        fun _ _ => .of_same rfl rfl trivial
  | complete completer result next =>
      refine .of_same rfl rfl fun canceled => ?_
      cases result <;> cases canceled
  | execute context task next => exact keeps_execute context _ _ host
  | runTask task next =>
      have taken : host.Outlasts (host.takeTask task).2 := .of_same rfl rfl
      simp only [evaluate]
      split
      · rename_i after found
        rw [found] at taken
        exact ⟨taken, trivial⟩
      · rename_i given after found
        rw [found] at taken
        exact (keeps_perform given _ after).later taken
  | _ => exact .of_same rfl rfl trivial

/-- Tokens stay canceled and plans stay held; cancellation comes from the outcome of a run. -/
theorem keeps_next (machine : Machine Memory last) : Keeps machine.host machine.next := by
  obtain ⟨focus, host⟩ := machine
  cases focus with
  | code code callers => exact keeps_evaluate code callers
  | iterate loop plan callers => exact loop.keeps_iterate plan
  | feed loop result callers => exact loop.keeps_feed result
  | finish run outcome callers => exact (ended ..).keeps
  | complete completer outcome callers => exact (completed ..).keeps
  | unwind payload callers => exact keeps_unwind callers payload
  | halted => exact .of_same rfl rfl trivial

end Machine

end Trampoline
