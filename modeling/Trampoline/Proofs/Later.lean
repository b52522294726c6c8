import Trampoline.Proofs.Move.Host
import Trampoline.Proofs.Prefix
import Trampoline.Proofs.Showing
import Trampoline.Proofs.Timing

/-!
Chronicles that go on.

What has happened stays so, and a run goes on from where it stood.  A token that is canceled stays
canceled, so that whoever looks at it later finds it so.  A boundary completes with cancellation
only if a nested run has told that.
-/

namespace Trampoline

variable {Memory : Type} {last : Form}

/-- What comes of a chronicle when its workers go on in the order of a schedule. -/
def Chronicle.after (chronicle : Chronicle Memory) (schedule : List Nat) : Chronicle Memory :=
  schedule.foldl Chronicle.move chronicle

theorem Chronicle.Reachable.after {chronicle : Chronicle Memory} (reachable : chronicle.Reachable)
    (schedule : List Nat) : (chronicle.after schedule).Reachable := by
  obtain ⟨memory, codes, earlier, rfl⟩ := reachable
  exact ⟨memory, codes, earlier ++ schedule, (List.foldl_append ..).symm⟩

/-- What a move of a pool adds to its history is what happens to a machine on its host. -/
theorem Pool.exists_machine {pool : Pool Memory} {position : Nat} {record : Record Memory}
    (member : record ∈ (pool.move position).1) :
    ∃ worker ∈ pool.workers,
      (record.run, record.happening) ∈ (worker.machine pool.host).happenings := by
  rcases pool.move_cases position with ⟨before, worker, rest, workers, moved⟩ | still
  · rw [moved] at member
    obtain ⟨⟨run, happening⟩, listed, rfl⟩ := List.mem_map.1 member
    exact ⟨worker, by simp [workers], listed⟩
  · rw [still] at member
    cases member

structure Chronicle.GoesOn (chronicle later : Chronicle Memory) (more : List (Record Memory)) :
    Prop where
  host : chronicle.pool.host.Outlasts later.pool.host
  history : later.history = chronicle.history ++ more
  looks : ∀ record ∈ more, ∀ token found, record.happening = .looked token found →
    chronicle.pool.host.tokens.isCanceled token = true → found = true

theorem Accounts.resumes {receiver? receiver'? : Option (Receiver Memory)}
    {done more : List (Happening Memory)} {standing : Standing Memory}
    {standings : List (Standing Memory)} (accounts : Accounts receiver? done [standing])
    (later : Accounts receiver'? (done ++ more) standings) :
    ∃ goal, standings = [goal] ∧
      (Standing.Leads standing more goal ∨ more = [] ∧ Standing.Leads goal [] standing) := by
  cases accounts with
  | born leads =>
      cases later with
      | born leads' => exact ⟨_, rfl, leads.split leads'⟩

namespace Chronicle

theorem outlasts_move (chronicle : Chronicle Memory) (position : Nat) :
    chronicle.pool.host.Outlasts (chronicle.move position).pool.host := by
  obtain ⟨history, pool⟩ := chronicle
  rcases pool.move_cases position with ⟨before, worker, rest, workers, moved⟩ | still
  · simp only [move, moved]
    have entered : pool.host.Outlasts (worker.machine pool.host).host := .of_same rfl rfl
    exact entered.trans (worker.machine pool.host).keeps_next.host
  · simp only [move, still]
    exact .refl _

theorem looks_move {chronicle : Chronicle Memory} {position : Nat} {record : Record Memory}
    (member : record ∈ (chronicle.pool.move position).1) {token : Token} {found : Bool}
    (looked : record.happening = .looked token found) :
    found = chronicle.pool.host.tokens.isCanceled token := by
  obtain ⟨worker, _, happens⟩ := Pool.exists_machine member
  rw [looked] at happens
  exact (Machine.shows_of_old happens (by simp)).looked

theorem goesOn (chronicle : Chronicle Memory) (schedule : List Nat) :
    ∃ more, chronicle.GoesOn (chronicle.after schedule) more := by
  induction schedule generalizing chronicle with
  | nil => exact ⟨[], .refl _, (List.append_nil _).symm, nofun⟩
  | cons position schedule inductionHypothesis =>
      obtain ⟨more, later⟩ := inductionHypothesis (chronicle.move position)
      have moved := chronicle.outlasts_move position
      refine ⟨(chronicle.pool.move position).1 ++ more, moved.trans later.host, ?_, ?_⟩
      · rw [← List.append_assoc]
        exact later.history
      · intro record member token found looked canceled
        rcases List.mem_append.1 member with now | then_
        · rw [looks_move now looked]
          exact canceled
        · exact later.looks record then_ token found looked (moved.tokens token canceled)

/-- Cancellation completes a boundary on behalf of a run, and nobody else is about to do so; a token
that was found canceled is canceled. -/
structure Honest (chronicle : Chronicle Memory) : Prop where
  workers : ∀ worker ∈ chronicle.pool.workers, worker.focus.Honest
  attempted : ∀ record ∈ chronicle.history, ∀ epoch maker,
    record.happening = .attempted epoch .canceled maker → maker = .run
  canceled : ∀ record ∈ chronicle.history, ∀ token, record.happening = .looked token true →
    chronicle.pool.host.tokens.isCanceled token = true

theorem Honest.looked {chronicle : Chronicle Memory} (honest : chronicle.Honest)
    (record : Record Memory) (recorded : record ∈ chronicle.history) :
    record.happening ≠ .looked .uncancelable true := by
  intro looked
  cases honest.canceled record recorded .uncancelable looked

theorem honest_move (chronicle : Chronicle Memory) (position : Nat) (honest : chronicle.Honest) :
    (chronicle.move position).Honest where
  workers := Pool.forall_workers_move honest.workers fun worker _ =>
    (worker.machine chronicle.pool.host).keeps_next.honest
  attempted := by
    intro record member epoch maker attempted
    rcases List.mem_append.1 member with earlier | now
    · exact honest.attempted record earlier epoch maker attempted
    · obtain ⟨worker, here, happens⟩ := Pool.exists_machine now
      rw [attempted] at happens
      obtain ⟨callers, focus, rfl⟩ := (Machine.shows_of_old happens (by simp)).attempted
      have kept := honest.workers worker here
      rw [show worker.focus = _ from focus] at kept
      exact kept rfl
  canceled := by
    intro record member token looked
    apply (chronicle.outlasts_move position).tokens token
    rcases List.mem_append.1 member with earlier | now
    · exact honest.canceled record earlier token looked
    · exact (looks_move now looked).symm

theorem Reachable.honest {chronicle : Chronicle Memory} (reachable : chronicle.Reachable) :
    chronicle.Honest := by
  obtain ⟨memory, codes, schedule, rfl⟩ := reachable
  refine Pool.chronicle_induction _ ⟨?_, nofun, nofun⟩ honest_move schedule
  intro worker member
  obtain ⟨position, name, rfl⟩ := List.mem_mapIdx.1 member
  trivial

/-- A boundary that completed with cancellation was for a nested run that has told that. -/
theorem Reachable.forwarded {chronicle : Chronicle Memory} (reachable : chronicle.Reachable)
    {run epoch : Nat} (crossed : .crossed epoch .canceled ∈ course run chronicle.history) :
    Forwarded chronicle.history chronicle.pool.host.runs ⟨run, epoch⟩ .canceled := by
  obtain ⟨thread, maker, tried⟩ := reachable.holds.kept.crossed run epoch .canceled crossed
  obtain rfl := reachable.honest.attempted _ tried epoch maker rfl
  exact reachable.holds.kept.attempted run epoch .canceled ⟨thread, tried⟩

theorem mem_of_course {run : Nat} {history : List (Record Memory)} {happening : Happening Memory}
    (member : happening ∈ Trampoline.course run history) :
    ∃ record ∈ history, record.happening = happening := by
  obtain ⟨record, listed, shown⟩ := List.mem_filterMap.1 member
  split at shown
  · cases shown
    exact ⟨record, listed, rfl⟩
  · cases shown

/-- A token that was found canceled is canceled. -/
theorem Reachable.isCanceled_of_looked {chronicle : Chronicle Memory}
    (reachable : chronicle.Reachable) {run : Nat} {token : Token}
    (looked : .looked token true ∈ course run chronicle.history) :
    chronicle.pool.host.tokens.isCanceled token = true := by
  obtain ⟨record, recorded, same⟩ := mem_of_course looked
  exact reachable.honest.canceled record recorded token same

/-- What a run does later, from where it stood. -/
structure Resumes (chronicle later : Chronicle Memory) (run : Nat) (standing : Standing Memory)
    (happenings : List (Happening Memory)) (goal : Standing Memory) : Prop where
  course : course run later.history = course run chronicle.history ++ happenings
  stands : later.pool.situation.standings run = [goal]
  leads : Standing.Leads standing happenings goal ∨
    happenings = [] ∧ Standing.Leads goal [] standing
  looks : ∀ token found, .looked token found ∈ happenings →
    chronicle.pool.host.tokens.isCanceled token = true → found = true

theorem Reachable.resumes {chronicle : Chronicle Memory} (reachable : chronicle.Reachable)
    (schedule : List Nat) {run : Nat} {standing : Standing Memory}
    (stands : chronicle.pool.situation.standings run = [standing]) :
    ∃ happenings goal, chronicle.Resumes (chronicle.after schedule) run standing happenings goal := by
  obtain ⟨more, goesOn⟩ := chronicle.goesOn schedule
  have listed : course run (chronicle.after schedule).history =
      course run chronicle.history ++ course run more := by
    rw [goesOn.history, course_append]
  have accounts := reachable.holds.tracked run
  have accounts' := (reachable.after schedule).holds.tracked run
  rw [stands] at accounts
  rw [listed] at accounts'
  obtain ⟨goal, stands', leads⟩ := accounts.resumes accounts'
  refine ⟨_, goal, listed, stands', leads, fun token found member => ?_⟩
  obtain ⟨record, recorded, looked⟩ := mem_of_course member
  exact goesOn.looks record recorded token found looked

end Chronicle

end Trampoline
