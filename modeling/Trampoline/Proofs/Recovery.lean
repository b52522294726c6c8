import Trampoline.Proofs.Completion
import Trampoline.Proofs.Onward
import Trampoline.Proofs.Prefix

/-!
How a run goes on after a panic.

A panic in code that a loop has called is a failure raised there: the panic itself, or what a thunk's
own code makes of it.  A registration that panics fails its boundary, unless that has been completed,
and a receiver that panics has returned.
-/

namespace Trampoline

variable {Memory : Type} {last : Form}

namespace Site

/-- What a run does after a panic of the code that it has called, up to where it stands. -/
inductive Recovers (site : Site Memory) (pending : List (Frame Memory)) (token : Token)
    (panic : Panic) : List (Happening Memory) → Standing Memory → Prop where
  /-- The panic itself is the failure. -/
  | raised {rest goal} (unnamed : site.onPanic? = none)
      (leads : Standing.Leads (site.failing (.panicked panic) pending token) rest goal) :
      Recovers site pending token panic rest goal
  | naming {onPanic} (mapped : site.onPanic? = some onPanic) :
      Recovers site pending token panic [.called (.naming onPanic panic) token]
        (.calling site.naming pending token)
  | named {onPanic failure rest goal} (mapped : site.onPanic? = some onPanic)
      (leads : Standing.Leads (site.failing failure pending token) rest goal) :
      Recovers site pending token panic
        (.called (.naming onPanic panic) token :: .answered (.failure failure) :: rest) goal
  /-- Naming a panic has panicked. -/
  | twice {onPanic second rest goal} (mapped : site.onPanic? = some onPanic)
      (leads : Standing.Leads (site.failing (.panicked second) pending token) rest goal) :
      Recovers site pending token panic
        (.called (.naming onPanic panic) token :: .panicked second :: rest) goal

end Site

namespace Standing

variable {standing next goal : Standing Memory} {before happenings rest : List (Happening Memory)}
  {panic : Panic}

def Recovers (start : Standing Memory) (before : List (Happening Memory)) (panic : Panic)
    (rest : List (Happening Memory)) (goal : Standing Memory) : Prop :=
  ∃ site pending token, Leads start before (.calling site pending token) ∧
    site.Recovers pending token panic rest goal

theorem Step.of_panicked (step : Step standing happenings next)
    (split : happenings = before ++ .panicked panic :: rest) :
    before = [] ∧ ∃ site pending token, standing = .calling site pending token := by
  cases before with
  | nil =>
      refine ⟨rfl, ?_⟩
      cases step <;> first | exact ⟨_, _, _, rfl⟩ | cases split
  | cons first before =>
      exfalso
      have member : Happening.panicked panic ∈ happenings.tail := by simp [split]
      cases step <;> simp at member

theorem Leads.of_naming {site : Site Memory} {onPanic : Panic → Code Memory .failure}
    {pending : List (Frame Memory)} {token : Token} (mapped : site.onPanic? = some onPanic)
    (leads : Leads (.calling site.naming pending token) rest goal) :
    site.Recovers pending token panic (.called (.naming onPanic panic) token :: rest) goal := by
  obtain ⟨_, path⟩ := leads
  cases site with
  | suspended =>
      cases path with
      | done => exact .naming mapped
      | step taken path =>
          cases taken with
          | nameSuspendedAnswer => exact .named mapped ⟨_, path⟩
          | panic => exact .twice mapped ⟨_, path⟩
  | delayed =>
      cases path with
      | done => exact .naming mapped
      | step taken path =>
          cases taken with
          | nameDelayedAnswer => exact .named mapped ⟨_, path⟩
          | nameDelayedPanic => exact .twice mapped ⟨_, path⟩
          | panic raises => cases raises
  | _ => cases mapped

theorem Step.recovers {site : Site Memory} {pending : List (Frame Memory)} {token : Token}
    (step : Step (.calling site pending token) (.panicked panic :: happenings) next)
    (leads : Leads next rest goal) :
    site.Recovers pending token panic (happenings ++ rest) goal := by
  cases step with
  | suspendPanic => exact Leads.of_naming rfl leads
  | delayPanic => exact Leads.of_naming rfl leads
  | nameDelayedPanic => exact .raised rfl leads
  | panic raises => cases site <;> first | exact .raised rfl leads | cases raises

/-- A run recovers from every panic of code that it has called. -/
theorem Leads.recovers (leads : Leads standing (before ++ .panicked panic :: rest) goal) :
    Recovers standing before panic rest goal := by
  obtain ⟨early, front, between, late, place, next, rfl, rfl, first, step, later⟩ :=
    leads.exists_step
  obtain ⟨rfl, site, pending, token, rfl⟩ := step.of_panicked rfl
  rw [List.append_nil]
  exact ⟨site, pending, token, first, step.recovers later⟩

end Standing

/-! ### Registrations and receivers -/

def Host.counting (host : Host Memory) (payload : Payload) : Host Memory :=
  let panic := (host.capture payload).1
  { host with capturedPanics := panic.number }.emit (.capturedPanic panic.number panic.message)

namespace Machine

variable {records : List (Record Memory)} {openings : List Opening}
  {boundary? : Option (Boundary Memory)} {opening : Opening}

/-- A registration that is open parks what it completes its boundary with, unless another completion
came first. -/
theorem complete_of_open (account : Account records openings boundary?)
    (open_ : opening ∈ openings) :
    ∃ reach ∈ reaches records, reach.epoch = opening.epoch ∧
      ∀ (outcome : Outcome Value) (callers : Callers Memory last .unit) (host : Host Memory),
        boundaryOf host.runs opening.run = boundary? → host.thread.id = opening.thread →
          complete ⟨opening.run, opening.epoch⟩ outcome callers host =
            finished callers
              (if attempts opening.epoch records = [] then
                host.setBoundary opening.run
                  ⟨reach.epoch, reach.token, .parked reach.pending outcome⟩
              else host.emit (.ignoredCompletion opening.epoch)) := by
  obtain ⟨reach, member, sameEpoch, _, sameThread⟩ := account.opened opening open_
  refine ⟨reach, member, sameEpoch, fun outcome callers host found here => ?_⟩
  subst found
  split
  · rename_i unattempted
    have parks : ite _ (complete ⟨opening.run, opening.epoch⟩ outcome callers host = _) _ :=
      complete_of_unattempted host account unattempted member sameEpoch
    rwa [if_pos ⟨sameThread.trans here.symm, account.unreturned_of_open open_⟩] at parks
  · rename_i attempted
    exact complete_of_over host account (.inl attempted)

/-- A registration that panics comes to what it would come to had it failed its boundary and
returned. -/
theorem moves_registering {run epoch : Nat} {token : Token} {host : Host Memory}
    (account : Account records openings (boundaryOf host.runs run))
    (open_ : ⟨run, epoch, token, host.thread.id⟩ ∈ openings) (payload : Payload)
    (callers : Callers Memory last .unit) :
    moves 3 ⟨.unwind payload (.push (.registering run epoch token) callers), host⟩ =
      moves 4 ⟨.code
        (.complete ⟨run, epoch⟩ (.error (.panicked (host.capture payload).1)) fun _ => Code.unit)
        (.push (.registering run epoch token) callers), host.counting payload⟩ := by
  obtain ⟨reach, _, _, completes⟩ := complete_of_open account open_
  have panicked := completes (.failed (.panicked (host.capture payload).1))
    (.push (.detaching run epoch token) callers) (host.counting payload).closeGuard rfl rfl
  have failed := completes (.failed (.panicked (host.capture payload).1))
    (.push (.code fun _ => Code.unit) (.push (.registering run epoch token) callers))
    (host.counting payload) rfl rfl
  calc
    _ = moves 1 (complete ⟨run, epoch⟩ (.failed (.panicked (host.capture payload).1))
          (.push (.detaching run epoch token) callers) (host.counting payload).closeGuard) := rfl
    _ = moves 2 (complete ⟨run, epoch⟩ (.failed (.panicked (host.capture payload).1))
          (.push (.code fun _ => Code.unit) (.push (.registering run epoch token) callers))
          (host.counting payload)) := by
      rw [panicked, failed]
      split <;> rfl
    _ = _ := rfl

end Machine

end Trampoline
