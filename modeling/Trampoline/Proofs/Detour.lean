import Trampoline.Proofs.Restoring
import Trampoline.Proofs.Stepping

/-!
Which token a run has after a plan, by itself or by way of another run.

A plan leaves its token to what comes after it.  If the plan is run on a context, or stepped up to a
boundary that has frames below it, then another run has the rest of it, and the token which that run
ends with is lost: the first run goes on under the token that it had before.
-/

namespace Trampoline

variable {Memory : Type}

/-- Whether another run is started for a plan, whose outcome is all that comes back from it. -/
def Plan.isDetour : Plan Memory → Bool
  | .continueOn _ _ | .async (.hopping _ _) | .async (.finishing _ _) => true
  | _ => false

section Proceeds

variable (plan : Plan Memory) (below : List (Frame Memory)) (token : Token)

/-- How far a run has come with a plan and with the frames below it. -/
inductive Proceeds : List (Happening Memory) → Standing Memory → Prop where
  | inside {region region' inner} (same : SameButFrames region region')
      (leads : Standing.Leads (.iterating plan [] token) region' inner)
      (unfinished : inner.isInconclusive = true) : Proceeds region (inner.above below)
  /-- The plan has come to a result, with which the run goes on under the token that it has left. -/
  | left {region result other rest goal} (finishes : plan.Finishes token region result other)
      (leads : Standing.Leads (.feeding result below other) rest goal) :
      Proceeds (region ++ rest) goal

end Proceeds

namespace Standing

variable {plan : Plan Memory} {below : List (Frame Memory)} {token other : Token}
  {happenings : List (Happening Memory)} {goal : Standing Memory} {result final : Result}
  {outcome : Outcome Value}

theorem Leads.proceeds (leads : Leads (.iterating plan below token) happenings goal) :
    Proceeds plan below token happenings goal := by
  obtain ⟨count, path⟩ := leads
  have whole : Path count (Standing.above below (.iterating plan [] token)) happenings goal := path
  rcases whole.of_above rfl with ⟨inner, region', path', rfl, same, unfinished⟩ |
    ⟨early, late, early', _, result, other, rfl, same, path', leads⟩
  · exact .inside same ⟨_, path'⟩ unfinished
  · exact .left ⟨early', same, _, path'⟩ leads

theorem Leads.ne_feeding_of_ending
    (leads : Leads (.ending outcome) happenings (.feeding final below other)) : False := by
  obtain ⟨count, path⟩ := leads
  cases path with
  | step first path =>
      cases first with
      | tell => cases path.of_ended.2

/-- A result with no frames below it stays what it is, and so does the token. -/
theorem Leads.eq_of_feeding
    (leads : Leads (.feeding result [] token) happenings (.feeding final [] other)) :
    final = result ∧ other = token := by
  obtain ⟨count, path⟩ := leads
  cases path with
  | done => exact ⟨rfl, rfl⟩
  | step first path =>
      cases first with
      | conclude => exact (Leads.ne_feeding_of_ending ⟨_, path⟩).elim

theorem Leads.eq_of_result (result : Result)
    (leads : Leads (.iterating (.ofResult result) [] token) happenings (.feeding final [] other)) :
    final = result ∧ other = token := by
  obtain ⟨count, path⟩ := leads
  cases result with
  | ok value =>
      cases path with
      | step first path =>
          cases first with
          | stop => exact (Leads.ne_feeding_of_ending ⟨_, path⟩).elim
          | pure => exact Leads.eq_of_feeding ⟨_, path⟩
          | descend sequencing => cases sequencing
  | error failure =>
      cases path with
      | step first path =>
          cases first with
          | stop => exact (Leads.ne_feeding_of_ending ⟨_, path⟩).elim
          | raise => exact Leads.eq_of_feeding ⟨_, path⟩
          | descend sequencing => cases sequencing

theorem Leads.eq_of_after
    (leads : Leads (.after outcome [] token) happenings (.feeding final [] other)) :
    outcome = .ofResult final ∧ other = token := by
  cases outcome with
  | completed value =>
      obtain ⟨rfl, rfl⟩ := Leads.eq_of_result (.ok value) leads
      exact ⟨rfl, rfl⟩
  | failed failure =>
      obtain ⟨rfl, rfl⟩ := Leads.eq_of_result (.error failure) leads
      exact ⟨rfl, rfl⟩
  | canceled => exact leads.ne_feeding_of_ending.elim

theorem Leads.eq_of_boundary {registration : Registration Memory}
    (leads : Leads (.iterating (.async registration) [] token) happenings
      (.feeding final [] other)) :
    other = token ∧ ∃ epoch, .crossed epoch (.ofResult final) ∈ happenings := by
  obtain ⟨count, path⟩ := leads
  cases path with
  | step first path =>
      generalize empty : ([] : List (Frame Memory)) = pending at first
      cases first with
      | stop => exact (Leads.ne_feeding_of_ending ⟨_, path⟩).elim
      | descend sequencing => cases sequencing
      | reach =>
          rw [← empty] at path
          cases path with
          | step second path =>
              cases second with
              | cross =>
                  obtain ⟨rfl, rfl⟩ := Leads.eq_of_after ⟨_, path⟩
                  exact ⟨rfl, _, .tail _ (.tail _ (.head _))⟩

end Standing

/-- Whatever the run that a detour starts does with its token, the run that it comes back to goes on
under its own, with the result that completed the boundary. -/
theorem Plan.Finishes.of_detour {plan : Plan Memory} {token other : Token}
    {region : List (Happening Memory)} {result : Result} (detours : plan.isDetour = true)
    (finishes : plan.Finishes token region result other) :
    other = token ∧ ∃ epoch, .crossed epoch (.ofResult result) ∈ region := by
  obtain ⟨region', same, leads⟩ := finishes
  have crossed (epoch : Nat) (member : .crossed epoch (.ofResult result) ∈ region') :
      .crossed epoch (.ofResult result) ∈ region :=
    same.symm.mem member (by simp)
  cases plan with
  | async registration =>
      obtain ⟨rfl, epoch, member⟩ := leads.eq_of_boundary
      exact ⟨rfl, epoch, crossed epoch member⟩
  | continueOn source context =>
      obtain ⟨count, path⟩ := leads
      cases path with
      | step first path =>
          cases first with
          | stop => exact (Standing.Leads.ne_feeding_of_ending ⟨_, path⟩).elim
          | descend sequencing => cases sequencing
          | hop =>
              obtain ⟨rfl, epoch, member⟩ := Standing.Leads.eq_of_boundary ⟨_, path⟩
              exact ⟨rfl, epoch, crossed epoch (.tail _ member)⟩
  | _ => cases detours

/-- What stepping leaves is a detour, or it leaves the token that the plan itself would. -/
theorem Plan.Finishes.of_stepped {plan source : Plan Memory} {token : Token}
    {hosts : List (Host Memory)}
    (stepped : source.stepping.after hosts = .code (Code.plan plan) .bottom) :
    plan.isDetour = true ∨
      ∀ region result other, plan.Finishes token region result other →
        ∃ happenings, source.Finishes token happenings result other := by
  obtain ⟨standing, leads, residual⟩ := source.leads_of_stepping token stepped
  cases residual with
  | @result result =>
      refine .inr fun region final other ⟨region', _, finishes⟩ => ?_
      obtain ⟨rfl, rfl⟩ := Standing.Leads.eq_of_result result finishes
      exact ⟨_, _, .refl _, leads⟩
  | head =>
      refine .inr fun region final other ⟨region', _, finishes⟩ => ?_
      exact ⟨_, _, .refl _, leads.trans finishes⟩
  | pending => exact .inl rfl

/-- What comes after a plan runs under the token that the plan has left.  If the plan is run on a
context, or is what stepping has left with frames below a boundary, then that is always the
surrounding token, whatever the plan has switched to; if stepping has left anything else, it is the
token that the plan would have left without stepping. -/
theorem detour_gives_token_back (chronicle : Chronicle Memory) (reachable : chronicle.Reachable)
    (later : List Nat) (run : Nat) (plan : Plan Memory) (below : List (Frame Memory))
    (token : Token)
    (stands : chronicle.pool.situation.standings run = [.iterating plan below token]) :
    (∃ happenings goal,
      course run (chronicle.after later).history = course run chronicle.history ++ happenings ∧
      (chronicle.after later).pool.situation.standings run = [goal] ∧
      Proceeds plan below token happenings goal) ∧
    (plan.isDetour = true → ∀ region result other, plan.Finishes token region result other →
      other = token ∧ ∃ epoch, .crossed epoch (.ofResult result) ∈ region) ∧
    ∀ (source : Plan Memory) (hosts : List (Host Memory)),
      source.stepping.after hosts = .code (Code.plan plan) .bottom →
      plan.isDetour = true ∨
        ∀ region result other, plan.Finishes token region result other →
          ∃ happenings, source.Finishes token happenings result other := by
  obtain ⟨happenings, goal, listed, stands', leads, _⟩ := reachable.leads_after later stands rfl
  refine ⟨⟨happenings, goal, listed, stands', leads.proceeds⟩, ?_, ?_⟩
  · exact fun detours region result other => Plan.Finishes.of_detour detours
  · exact fun source hosts => Plan.Finishes.of_stepped

section Switched

def runFollowed (plan : Plan Unit) : Code Unit .unit :=
  .ask .newToken fun (_ : Token) => .ask .newToken fun (_ : Token) =>
    .run (.bind plan Plan.answering) (.tracked 0) (fun _ => Code.unit) fun _ => Code.unit

def runStepped (plan : Plan Unit) : Code Unit .unit :=
  .ask .newToken fun (_ : Token) => .ask .newToken fun (_ : Token) =>
    .step plan fun kept =>
      .run (.bind (.held kept) Plan.answering) (.tracked 0) (fun _ => Code.unit) fun _ => Code.unit

def Plan.leavesHopping : Plan Unit := .continueOn Plan.leaves .immediate

def Plan.leavesMapped : Plan Unit := .map Plan.leaves Code.value

def Chronicle.followed (plan : Plan Unit) (moves : Nat) : Chronicle Unit :=
  (Pool.opening () [(none, runFollowed plan)]).chronicle (List.replicate moves 0)

def Chronicle.stepped (plan : Plan Unit) (moves : Nat) : Chronicle Unit :=
  (Pool.opening () [(none, runStepped plan)]).chronicle (List.replicate moves 0)

theorem standings_leavesHopping :
    (Chronicle.followed Plan.leavesHopping 4).pool.situation.standings 0 =
      [.iterating Plan.leavesHopping [.bind Plan.answering] (.tracked 0)] := by
  cbv

theorem course_leaves :
    course 0 (Chronicle.followed Plan.leaves 20).history =
      [.started (.bind Plan.leaves Plan.answering) {} (.tracked 0) (.code fun _ => Code.unit),
        .looked (.tracked 0) false, .looked (.tracked 0) false,
        .called (.switching Token.leave (.tracked 0)) (.tracked 0),
        .answered (.token (.tracked 1)), .looked (.tracked 1) false,
        .called (.continuing Plan.answering (.datum .null)) (.tracked 1),
        .answered (.plan .never), .looked (.tracked 1) false,
        .reached 1 (.calling fun _ _ => Code.unit) (.tracked 1) {}] := by
  cbv

theorem course_leavesHopping :
    course 0 (Chronicle.followed Plan.leavesHopping 40).history =
      [.started (.bind Plan.leavesHopping Plan.answering) {} (.tracked 0)
          (.code fun _ => Code.unit),
        .looked (.tracked 0) false, .looked (.tracked 0) false, .looked (.tracked 0) false,
        .reached 1 (.hopping Plan.leaves .immediate) (.tracked 0)
          { top := some (.bind Plan.answering) },
        .crossed 1 (.completed (.datum .null)), .looked (.tracked 0) false,
        .called (.continuing Plan.answering (.datum .null)) (.tracked 0),
        .answered (.plan .never), .looked (.tracked 0) false,
        .reached 2 (.calling fun _ _ => Code.unit) (.tracked 0) {}] := by
  cbv

theorem course_leavesMapped :
    course 0 (Chronicle.stepped Plan.leavesMapped 40).history =
      [.started (.bind (.held 0) Plan.answering) {} (.tracked 0) (.code fun _ => Code.unit),
        .looked (.tracked 0) false, .looked (.tracked 0) false,
        .recalled 0 (.async (.finishing Plan.leaves { top := some (.map Code.value) })),
        .looked (.tracked 0) false,
        .reached 1 (.finishing Plan.leaves { top := some (.map Code.value) }) (.tracked 0)
          { top := some (.bind Plan.answering) },
        .crossed 1 (.completed (.datum .null)), .looked (.tracked 0) false,
        .called (.continuing Plan.answering (.datum .null)) (.tracked 0),
        .answered (.plan .never), .looked (.tracked 0) false,
        .reached 2 (.calling fun _ _ => Code.unit) (.tracked 0) {}] := by
  cbv

/-- The plan that leaves another token comes on a context, with a boundary after it. -/
theorem detour_gives_token_back_hopping :
    (∃ happenings goal,
      course 0 ((Chronicle.followed Plan.leavesHopping 4).after (List.replicate 40 0)).history =
        course 0 (Chronicle.followed Plan.leavesHopping 4).history ++ happenings ∧
      ((Chronicle.followed Plan.leavesHopping 4).after
        (List.replicate 40 0)).pool.situation.standings 0 = [goal] ∧
      Proceeds Plan.leavesHopping [.bind Plan.answering] (.tracked 0) happenings goal) ∧
    ∀ region result other, Plan.leavesHopping.Finishes (.tracked 0) region result other →
      other = .tracked 0 := by
  have reachable : (Chronicle.followed Plan.leavesHopping 4).Reachable := ⟨_, _, _, rfl⟩
  obtain ⟨proceeds, givesBack, -⟩ := detour_gives_token_back
    (Chronicle.followed Plan.leavesHopping 4) reachable (List.replicate 40 0) 0 Plan.leavesHopping
    [.bind Plan.answering] (.tracked 0) standings_leavesHopping
  exact ⟨proceeds, fun region result other finishes =>
    (givesBack rfl region result other finishes).1⟩

/-- What comes after the plan runs under the token that the plan has switched to.  What comes after
the plan on a context, or after what stepping has left of it with a frame below, does not; and no
active token is canceled. -/
theorem detour_loses_other_token :
    .called (.continuing Plan.answering (.datum .null)) (.tracked 1) ∈
        course 0 (Chronicle.followed Plan.leaves 20).history ∧
      .called (.continuing Plan.answering (.datum .null)) (.tracked 0) ∈
        course 0 (Chronicle.followed Plan.leavesHopping 40).history ∧
      .called (.continuing Plan.answering (.datum .null)) (.tracked 0) ∈
        course 0 (Chronicle.stepped Plan.leavesMapped 40).history ∧
      ∀ token, .looked token true ∉ course 0 (Chronicle.followed Plan.leaves 20).history ++
        course 0 (Chronicle.followed Plan.leavesHopping 40).history ++
        course 0 (Chronicle.stepped Plan.leavesMapped 40).history := by
  rw [course_leaves, course_leavesHopping, course_leavesMapped]
  simp

end Switched

end Trampoline
