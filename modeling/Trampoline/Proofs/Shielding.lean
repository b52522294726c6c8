import Trampoline.Proofs.Answering
import Trampoline.Proofs.Later
import Trampoline.Proofs.Region

/-!
How a run goes through an uncancelable plan.

The plan runs under the uncancelable token, above a frame that gives the surrounding token back
whatever the result is.  There is no such frame if the surrounding token is the uncancelable one
already: the run then goes on with whatever token the plan has left.
-/

namespace Trampoline

variable {Memory : Type}

def mask : Token → Code Memory .token := fun _ => .done (.token .uncancelable)

def unmask : Result → Token → Token → Code Memory .token := fun _ old _ => .done (.token old)

theorem Plan.uncancelable_eq (source : Plan Memory) :
    source.uncancelable = .switch source mask (some unmask) := rfl

/-- Wherever code is called that is an answer already, it is what happens next. -/
def Answered (happenings : List (Happening Memory)) : Prop :=
  ∀ before call token answer happening after,
    happenings = before ++ .called call token :: happening :: after → call.code = .done answer →
      happening = .answered answer

theorem Answered.of_append {before happenings : List (Happening Memory)}
    (answered : Answered (before ++ happenings)) : Answered happenings := by
  rintro early call token answer happening after rfl ready
  exact answered (before ++ early) call token answer happening after
    (List.append_assoc ..).symm ready

theorem Answered.of_append_left {happenings rest : List (Happening Memory)}
    (answered : Answered (happenings ++ rest)) : Answered happenings := by
  rintro early call token answer happening after rfl ready
  exact answered early call token answer happening (after ++ rest) (by simp) ready

theorem Chronicle.Reachable.answered {chronicle : Chronicle Memory}
    (reachable : chronicle.Reachable) (run : Nat) : Answered (course run chronicle.history) := by
  intro before call token answer happening after listed ready
  obtain ⟨reply, shown, may⟩ := reachable.truthful.replies _ _ _ _ _ _ listed
  cases may.eq_answered ready
  cases happening <;> cases shown
  rfl

/-- From where it stands a run goes on, and code that is an answer answers. -/
theorem Chronicle.Reachable.leads_after {chronicle : Chronicle Memory}
    (reachable : chronicle.Reachable) (later : List Nat) {run : Nat} {standing : Standing Memory}
    (stands : chronicle.pool.situation.standings run = [standing])
    (loud : standing.isSilent = false) :
    ∃ happenings goal,
      course run (chronicle.after later).history = course run chronicle.history ++ happenings ∧
      (chronicle.after later).pool.situation.standings run = [goal] ∧
      Standing.Leads standing happenings goal ∧ Answered happenings := by
  obtain ⟨happenings, goal, resumes⟩ := reachable.resumes later stands
  refine ⟨happenings, goal, resumes.course, resumes.stands, ?_, ?_⟩
  · rcases resumes.leads with leads | ⟨rfl, silent⟩
    · exact leads
    · rw [silent.eq_of_silent loud]
      exact .refl
  · have whole := (reachable.after later).answered run
    rw [resumes.course] at whole
    exact whole.of_append

section Shielded

variable (source : Plan Memory) (below : List (Frame Memory)) (token : Token)

/-- What happens before an uncancelable plan runs. -/
def opening : List (Happening Memory) :=
  [.looked token false, .called (.switching mask token) token,
    .answered (.token .uncancelable : Answer Memory .token)]

/-- What happens once an uncancelable plan has come to a result under some token. -/
def closing (result : Result) (other : Token) : List (Happening Memory) :=
  [.called (.restoring unmask result token other) other,
    .answered (.token token : Answer Memory .token)]

/-- How far a run has come with an uncancelable plan: what the plan has done, its result if there is
one yet, what has happened since, and where the run stands. -/
inductive Masked : List (Happening Memory) → Option Result → List (Happening Memory) →
    Standing Memory → Prop where
  | inside {region region' inner} (same : SameButFrames region region')
      (leads : Standing.Leads (.iterating source [] .uncancelable) region' inner)
      (undecided : inner.isInconclusive = true) :
      Masked region none [] (inner.above (.restore token unmask :: below))
  | leaving {region result other} (finishes : source.Finishes .uncancelable region result other) :
      Masked region (some result) [.called (.restoring unmask result token other) other]
        (.calling (.restoring result) below other)
  /-- With its result the run goes on under the surrounding token. -/
  | left {region result other rest goal}
      (finishes : source.Finishes .uncancelable region result other)
      (leads : Standing.Leads (.iterating (.ofResult result) below token) rest goal) :
      Masked region (some result) (closing token result other ++ rest) goal

/-- What happens to a run that comes to an uncancelable plan, and where it stands then. -/
inductive Shielded : List (Happening Memory) → Standing Memory → Prop where
  | before : Shielded [] (.iterating source.uncancelable below token)
  | refused {rest goal} (leads : Standing.Leads (.ending .canceled) rest goal) :
      Shielded (.looked token true :: rest) goal
  | entering : Shielded [.looked token false, .called (.switching mask token) token]
      (.calling (.switching source (some unmask)) below token)
  | entered {region result? rest goal} (masked : Masked source below token region result? rest goal) :
      Shielded (opening token ++ region ++ rest) goal

end Shielded

namespace Standing

variable {source : Plan Memory} {below : List (Frame Memory)} {token : Token}
  {happenings before : List (Happening Memory)} {goal : Standing Memory}

theorem Leads.leave {region : List (Happening Memory)} {result : Result} {other : Token}
    (finishes : source.Finishes .uncancelable region result other)
    (leads : Leads (.feeding result (.restore token unmask :: below) other) happenings goal)
    (answered : Answered (before ++ happenings)) :
    ∃ result?, Masked source below token region result? happenings goal := by
  have taken : (Frame.restore token unmask : Frame Memory).call? result other =
      some (.restoring unmask result token other) := by
    cases result <;> rfl
  obtain ⟨count, path⟩ := leads
  cases path with
  | done =>
      obtain ⟨region', same, leads⟩ := finishes
      exact ⟨none, .inside same leads rfl⟩
  | step first path =>
      cases first with
      | skip refused => cases refused.symm.trans taken
      | meet found =>
          cases found.symm.trans taken
          cases path with
          | done => exact ⟨some result, .leaving finishes⟩
          | step second path =>
              cases second with
              | @restoreAnswer _ _ _ answer =>
                  have same : (.answered (.token answer : Answer Memory .token) :
                      Happening Memory) = .answered (.token token) :=
                    answered before _ other _ _ _ rfl rfl
                  cases same
                  exact ⟨some result, .left finishes ⟨_, path⟩⟩
              | panic raises =>
                  cases answered before _ other _ _ _ rfl rfl

/-- A run that comes to an uncancelable plan under a token that can be canceled goes through it
shielded, and goes on under that token. -/
theorem Leads.shielded (cancelable : token ≠ .uncancelable)
    (leads : Leads (.iterating source.uncancelable below token) happenings goal)
    (answered : Answered happenings) : Shielded source below token happenings goal := by
  obtain ⟨count, path⟩ := leads
  rw [Plan.uncancelable_eq] at path
  cases path with
  | done => exact .before
  | step first path =>
      cases first with
      | stop => exact .refused ⟨_, path⟩
      | descend sequencing => cases sequencing
      | switch =>
          cases path with
          | done => exact .entering
          | @step _ _ _ _ _ rest second path =>
              cases second with
              | sameToken => cases answered [_] _ token _ _ _ rfl rfl; exact absurd rfl cancelable
              | @scopedToken _ _ _ _ other different =>
                  have same : (.answered (.token other : Answer Memory .token) :
                      Happening Memory) = .answered (.token .uncancelable) :=
                    answered [_] _ token _ _ _ rfl rfl
                  cases same
                  have region : Path _ (Standing.above (.restore token unmask :: below)
                      (.iterating source [] .uncancelable)) _ _ := path
                  rcases region.of_above rfl with ⟨inner, region', path', rfl, same, undecided⟩ |
                    ⟨early, late, early', _, result, current, rfl, same, path', leads⟩
                  · have masked : Masked source below token rest none [] _ :=
                      .inside same ⟨_, path'⟩ undecided
                    have entered := Shielded.entered masked
                    rwa [List.append_nil] at entered
                  · have whole : Answered (opening token ++ early ++ late) := answered
                    have finishes : source.Finishes .uncancelable early result current :=
                      ⟨early', same, _, path'⟩
                    obtain ⟨result?, masked⟩ := leads.leave finishes whole
                    have entered := Shielded.entered masked
                    rwa [List.append_assoc] at entered
              | panic raises => cases answered [_] _ token _ _ _ rfl rfl

end Standing

end Trampoline
