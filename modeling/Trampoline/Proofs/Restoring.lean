import Mathlib
import Trampoline.Proofs.Shielding

/-!
Which token a run has after an uncancelable plan.

If the surrounding token can be canceled, a run goes on under it once the plan has a result, even if
the plan has switched to another one and not back.  If the surrounding token is the uncancelable one
already, nothing gives it back, and the run goes on under the token that the plan has left.
-/

namespace Trampoline

variable {Memory : Type}

section Unshielded

variable (source : Plan Memory) (below : List (Frame Memory))

/-- How far a run has come with an uncancelable plan under the uncancelable token. -/
inductive Unshielded : List (Happening Memory) → Standing Memory → Prop where
  | before : Unshielded [] (.iterating source.uncancelable below .uncancelable)
  | entering : Unshielded
      [.looked .uncancelable false, .called (.switching mask .uncancelable) .uncancelable]
      (.calling (.switching source (some unmask)) below .uncancelable)
  | inside {region region' inner} (same : SameButFrames region region')
      (leads : Standing.Leads (.iterating source [] .uncancelable) region' inner) :
      Unshielded (opening .uncancelable ++ region) (inner.above below)
  /-- The plan has come to a result, with which the run goes on under the token that it has left. -/
  | left {region result other rest goal}
      (finishes : source.Finishes .uncancelable region result other)
      (leads : Standing.Leads (.feeding result below other) rest goal) :
      Unshielded (opening .uncancelable ++ region ++ rest) goal

end Unshielded

namespace Standing

variable {source : Plan Memory} {below : List (Frame Memory)} {happenings : List (Happening Memory)}
  {goal : Standing Memory}

theorem Leads.unshielded
    (leads : Leads (.iterating source.uncancelable below .uncancelable) happenings goal)
    (live : .looked .uncancelable true ∉ happenings) (answered : Answered happenings) :
    Unshielded source below happenings goal := by
  obtain ⟨count, path⟩ := leads
  rw [Plan.uncancelable_eq] at path
  cases path with
  | done => exact .before
  | step first path =>
      cases first with
      | stop => exact absurd (.head _) live
      | descend sequencing => cases sequencing
      | switch =>
          cases path with
          | done => exact .entering
          | step second path =>
              cases second with
              | sameToken =>
                  have region : Path _ (Standing.above below
                      (.iterating source [] .uncancelable)) _ _ := path
                  rcases region.of_above rfl with ⟨inner, region', path', rfl, same, _⟩ |
                    ⟨early, late, early', _, result, current, rfl, same, path', leads⟩
                  · exact .inside same ⟨_, path'⟩
                  · have finishes : source.Finishes .uncancelable early result current :=
                      ⟨early', same, _, path'⟩
                    have left := Unshielded.left finishes leads
                    rwa [List.append_assoc] at left
              | scopedToken different =>
                  cases answered [_] _ .uncancelable _ _ _ rfl rfl
                  exact absurd rfl different
              | panic raises => cases answered [_] _ .uncancelable _ _ _ rfl rfl

end Standing

/-- Once an uncancelable plan has a result, a run goes on under the surrounding token; unless that
is the uncancelable one, for then it goes on under the token that the plan has left. -/
theorem uncancelable_restores_token (chronicle : Chronicle Memory)
    (reachable : chronicle.Reachable) (later : List Nat) (run : Nat) (source : Plan Memory)
    (below : List (Frame Memory)) (token : Token)
    (stands : chronicle.pool.situation.standings run =
      [.iterating source.uncancelable below token]) :
    ∃ happenings goal,
      course run (chronicle.after later).history = course run chronicle.history ++ happenings ∧
      (chronicle.after later).pool.situation.standings run = [goal] ∧
      (token ≠ .uncancelable → Shielded source below token happenings goal) ∧
      (token = .uncancelable → Unshielded source below happenings goal) := by
  obtain ⟨happenings, goal, listed, stands', leads, answered⟩ :=
    reachable.leads_after later stands rfl
  refine ⟨happenings, goal, listed, stands', fun cancelable => ?_, ?_⟩
  · exact leads.shielded cancelable answered
  · rintro rfl
    refine leads.unshielded (fun member => ?_) answered
    have looked : .looked .uncancelable true ∈ course run (chronicle.after later).history := by
      rw [listed]
      exact List.mem_append_right _ member
    cases (reachable.after later).isCanceled_of_looked looked

section Leaves

def Token.leave (_current : Token) : Code Unit .token := .done (.token (.tracked 1))

def Plan.answering (_value : Value) : Code Unit .plan := Code.plan .never

/-- A plan that switches to another token and not back. -/
def Plan.leaves : Plan Unit := .switchTo .unit Token.leave

def runLeaves (root : Token) : Code Unit .unit :=
  .ask .newToken fun (_ : Token) => .ask .newToken fun (_ : Token) =>
    .run (.bind Plan.leaves.uncancelable Plan.answering) root (fun _ => Code.unit) fun _ => Code.unit

def Chronicle.leaves (root : Token) : Chronicle Unit :=
  (Pool.opening () [(none, runLeaves root)]).chronicle (List.replicate 4 0)

theorem standings_leaves_tracked :
    (Chronicle.leaves (.tracked 0)).pool.situation.standings 0 =
      [.iterating Plan.leaves.uncancelable [.bind Plan.answering] (.tracked 0)] := by
  cbv

theorem standings_leaves_uncancelable :
    (Chronicle.leaves .uncancelable).pool.situation.standings 0 =
      [.iterating Plan.leaves.uncancelable [.bind Plan.answering] .uncancelable] := by
  cbv

theorem course_leaves_uncancelable :
    course 0 ((Chronicle.leaves .uncancelable).after (List.replicate 9 0)).history =
      course 0 (Chronicle.leaves .uncancelable).history ++
        [.looked .uncancelable false, .called (.switching mask .uncancelable) .uncancelable,
          .answered (.token .uncancelable), .looked .uncancelable false,
          .called (.switching Token.leave .uncancelable) .uncancelable,
          .answered (.token (.tracked 1)), .looked (.tracked 1) false,
          .called (.continuing Plan.answering (.datum .null)) (.tracked 1),
          .answered (.plan .never), .looked (.tracked 1) false,
          .reached 1 (.calling fun _ _ => Code.unit) (.tracked 1) {}] := by
  cbv

/-- The uncancelable plan comes under a token that can be canceled, and switches to another. -/
theorem uncancelable_restores_token_leaves :
    ∃ happenings goal,
      course 0 ((Chronicle.leaves (.tracked 0)).after (List.replicate 12 0)).history =
        course 0 (Chronicle.leaves (.tracked 0)).history ++ happenings ∧
      ((Chronicle.leaves (.tracked 0)).after (List.replicate 12 0)).pool.situation.standings 0 =
        [goal] ∧
      Shielded Plan.leaves [.bind Plan.answering] (.tracked 0) happenings goal := by
  have reachable : (Chronicle.leaves (.tracked 0)).Reachable :=
    ⟨(), [(none, runLeaves (.tracked 0))], List.replicate 4 0, rfl⟩
  obtain ⟨happenings, goal, extends', stands, shielded, -⟩ :=
    uncancelable_restores_token (Chronicle.leaves (.tracked 0)) reachable (List.replicate 12 0) 0
      Plan.leaves [.bind Plan.answering] (.tracked 0) standings_leaves_tracked
  exact ⟨happenings, goal, extends', stands, shielded (by decide)⟩

/-- Under the uncancelable token it is the token of the plan that goes on: what comes after the
uncancelable plan can be canceled. -/
theorem uncancelable_keeps_other_token :
    (Chronicle.leaves .uncancelable).pool.situation.standings 0 =
        [.iterating Plan.leaves.uncancelable [.bind Plan.answering] .uncancelable] ∧
      ∃ happenings,
        course 0 ((Chronicle.leaves .uncancelable).after (List.replicate 9 0)).history =
          course 0 (Chronicle.leaves .uncancelable).history ++ happenings ∧
        .called (.continuing Plan.answering (.datum .null)) (.tracked 1) ∈ happenings :=
  ⟨standings_leaves_uncancelable, _, course_leaves_uncancelable, by simp⟩

end Leaves

end Trampoline
