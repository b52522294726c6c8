import Trampoline.Proofs.Move.Loop

/-!
Moves of a run as a whole.

A registration that returns leaves the run waiting or takes up what was parked; an attempt is
ignored, parked or resumes the run; an untold run that ends tells its outcome.
-/

namespace Trampoline

variable {Memory : Type} {last : Form} {host : Host Memory} {callers : Callers Memory last .unit}

namespace Boundary

variable {boundary parked : Boundary Memory} {epoch thread : Nat} {outcome : Outcome Value}
  {pending : Stack (Frame Memory)}

theorem accepted_of_complete_ne_ignored
    (accepted : boundary.complete epoch thread outcome ≠ .ignored) :
    (decide (boundary.epoch = epoch) && boundary.isArmed) = true := by
  rw [Ne, complete_eq_ignored_iff, Decidable.not_not] at accepted
  simpa using accepted

end Boundary

namespace Machine

theorem follows_detach (run epoch : Nat) (token : Token) (callers : Callers Memory last .unit)
    (host : Host Memory) (bounded : ∃ boundary, boundaryOf host.runs run = some boundary) :
    Follows host.thread.id
      ⟨callers.loops, ⟨run, epoch, token, host.thread.id⟩ :: callers.openings host.thread.id,
        host.due, [], host.runs, host.warnings⟩
      [(run, .returned epoch)] (detach run epoch token callers host) := by
  obtain ⟨boundary, found⟩ := bounded
  have located : host.boundary? run = some boundary := found
  rcases taken : boundary.detach epoch with ⟨_ | ⟨outcome, pending⟩, left⟩
  · simp only [detach, located, Option.map_some, taken]
    exact .of_effects (.one (.wait found rfl taken)) (Nat.le_of_eq Array.size_modify)
  · simp only [detach, located, Option.map_some, taken]
    have effect : Effect host.thread.id
        ⟨callers.loops, ⟨run, epoch, token, host.thread.id⟩ :: callers.openings host.thread.id,
          host.due, [], host.runs, host.warnings⟩
        [(run, .returned epoch)] _ := .takeUp found rfl taken
    apply Follows.of_effects
    · cases outcome <;> exact .one effect
    · cases outcome <;> exact Nat.le_of_eq Array.size_modify

theorem takes_telling (completer : Completer) (outcome : Outcome Value)
    (callers : Callers Memory last .unit) :
    callers.maker.Takes completer outcome (Focus.complete completer outcome callers).telling [] := by
  rw [Focus.telling]
  cases made : callers.maker <;> rfl

theorem follows_complete (completer : Completer) (outcome : Outcome Value) :
    Follows host.thread.id (Machine.situation ⟨.complete completer outcome callers, host⟩)
      (Focus.happenings host (.complete completer outcome callers))
      (complete completer outcome callers host) := by
  have takes := takes_telling completer outcome callers
  rcases Option.eq_none_or_eq_some (host.boundary? completer.run) with found | ⟨boundary, found⟩
  · have missing : boundaryOf host.runs completer.run = none := found
    simp only [Focus.happenings, complete, Host.accepts, found]
    refine .of_effects (.one (.ignore ?_ takes)) (Nat.le_refl _)
    rw [missing]
    rfl
  · have located : boundaryOf host.runs completer.run = some boundary := found
    simp only [Focus.happenings, complete, Host.accepts, found, Option.map_some, Option.getD_some,
      Option.any_some]
    cases attempted : boundary.complete completer.epoch host.thread.id outcome with
    | ignored =>
        have refused : (decide (boundary.epoch = completer.epoch) && boundary.isArmed) = false := by
          rw [Boundary.complete_eq_ignored_iff] at attempted
          simpa using attempted
        rw [refused]
        refine .of_effects (.one (.ignore ?_ takes)) (Nat.le_refl _)
        rw [located, Option.all_some, refused]
        rfl
    | parked parked =>
        have taken : boundary.complete completer.epoch host.thread.id outcome ≠ .ignored := by
          simp [attempted]
        rw [Boundary.accepted_of_complete_ne_ignored taken]
        exact .of_effects (.one (.park located attempted takes)) (Nat.le_of_eq Array.size_modify)
    | resumed resumed pending =>
        have taken : boundary.complete completer.epoch host.thread.id outcome ≠ .ignored := by
          simp [attempted]
        rw [Boundary.accepted_of_complete_ne_ignored taken]
        have effect : Effect host.thread.id
            (Machine.situation ⟨.complete completer outcome callers, host⟩) _ _ :=
          .resume located attempted takes
        apply Follows.of_effects
        · cases outcome <;> exact .one effect
        · cases outcome <;> exact Nat.le_of_eq Array.size_modify

theorem follows_finish (run : Nat) (outcome : Outcome Value)
    (untold : ∃ entry, host.runs[run]? = some entry ∧ entry.outcome = none) :
    Follows host.thread.id (callers.situationUnder host run (.ending outcome))
      (Focus.happenings host (.finish run outcome callers))
      (finish run outcome callers host) := by
  obtain ⟨⟨receiver, told, boundary⟩, found, rfl⟩ := untold
  simp only [Focus.happenings, finish, found, Option.any_some, Option.isNone_none, if_true,
    Option.isSome_none, Bool.false_eq_true, if_false]
  apply Follows.of_effects
  · cases receiver <;> exact .one (.tell found rfl)
  · cases receiver <;> exact Nat.le_of_eq Array.size_modify

end Machine

end Trampoline
