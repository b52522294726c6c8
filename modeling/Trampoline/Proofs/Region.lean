import Trampoline.Proofs.Lockstep

/-!
What a plan does, whatever is pending below it.

The frames below a plan take no part in what happens until the plan has a result.  So a run that
comes to a plan does what the plan does by itself, and then feeds the result to the frames below;
only the frames that boundaries save show that there are more.
-/

namespace Trampoline

variable {Memory : Type}

theorem Stack.exists_toList {Frame : Type} (frames : List Frame) :
    ∃ stack : Stack Frame, stack.toList = frames :=
  ⟨⟨none, frames.reverse.toArray⟩, by simp [toList]⟩

/-- What happens, but for the frames that a boundary saves. -/
def Happening.bare : Happening Memory → Happening Memory
  | .reached epoch registration token _ => .reached epoch registration token {}
  | happening => happening

def SameButFrames (happenings others : List (Happening Memory)) : Prop :=
  happenings.map Happening.bare = others.map Happening.bare

namespace SameButFrames

variable {happenings others rest rest' : List (Happening Memory)}

theorem refl (happenings : List (Happening Memory)) : SameButFrames happenings happenings := rfl

theorem symm (same : SameButFrames happenings others) : SameButFrames others happenings :=
  Eq.symm same

theorem append (same : SameButFrames happenings others) (later : SameButFrames rest rest') :
    SameButFrames (happenings ++ rest) (others ++ rest') := by
  rw [SameButFrames, List.map_append, List.map_append, same, later]

theorem mem_bare (same : SameButFrames happenings others) {happening : Happening Memory}
    (member : happening ∈ happenings) : ∃ other ∈ others, other.bare = happening.bare := by
  have listed : happening.bare ∈ others.map Happening.bare := by
    rw [← same]
    exact List.mem_map_of_mem member
  exact List.mem_map.1 listed

theorem mem (same : SameButFrames happenings others) {happening : Happening Memory}
    (member : happening ∈ happenings)
    (unsaved : ∀ epoch registration token pending,
      happening ≠ .reached epoch registration token pending) : happening ∈ others := by
  obtain ⟨other, listed, bare⟩ := same.mem_bare member
  cases happening <;> cases other <;> cases bare <;>
    first | exact listed | exact absurd rfl (unsaved _ _ _ _)

theorem reached (same : SameButFrames happenings others) {epoch : Nat}
    {registration : Registration Memory} {token : Token} {pending : Stack (Frame Memory)}
    (member : .reached epoch registration token pending ∈ happenings) :
    ∃ saved, .reached epoch registration token saved ∈ others := by
  obtain ⟨other, listed, bare⟩ := same.mem_bare member
  cases other <;> cases bare
  exact ⟨_, listed⟩

end SameButFrames

section Transcript

variable (hidden : Registration Memory → Bool)
  (nested : Registration Memory → Nat → Token → List (Moment Memory))

theorem transcript_map_bare (boundary? : Option (Registration Memory))
    (happenings : List (Happening Memory)) :
    transcript hidden nested boundary? (happenings.map Happening.bare) =
      transcript hidden nested boundary? happenings := by
  induction happenings generalizing boundary? with
  | nil => rfl
  | cons happening rest inductionHypothesis =>
      rw [List.map_cons]
      cases happening <;> simp only [Happening.bare, transcript, inductionHypothesis]

theorem SameButFrames.transcript_eq {happenings others : List (Happening Memory)}
    (same : SameButFrames happenings others) (boundary? : Option (Registration Memory)) :
    transcript hidden nested boundary? happenings =
      transcript hidden nested boundary? others := by
  rw [← transcript_map_bare, same, transcript_map_bare]

theorem transcript_append_told (boundary? : Option (Registration Memory))
    (happenings : List (Happening Memory)) (outcome : Outcome Value) :
    transcript hidden nested boundary? (happenings ++ [.told outcome]) =
      transcript hidden nested boundary? happenings := by
  induction happenings generalizing boundary? with
  | nil => simp [transcript, Happening.shown]
  | cons happening rest inductionHypothesis =>
      rw [List.cons_append]
      cases happening <;> simp only [transcript, inductionHypothesis]

end Transcript

/-- The same happens, but for the frames that boundaries save and for the end of a run. -/
inductive Lowers (happenings : List (Happening Memory)) : List (Happening Memory) → Prop where
  | untold {lowered} (same : SameButFrames happenings lowered) : Lowers happenings lowered
  | told {lowered outcome} (same : SameButFrames happenings lowered) :
      Lowers happenings (lowered ++ [.told outcome])

namespace Lowers

variable {happenings lowered : List (Happening Memory)} (lowers : Lowers happenings lowered)
include lowers

theorem mem {happening : Happening Memory} (member : happening ∈ lowered)
    (unsaved : ∀ epoch registration token pending,
      happening ≠ .reached epoch registration token pending)
    (untold : ∀ outcome, happening ≠ .told outcome) : happening ∈ happenings := by
  cases lowers with
  | untold same => exact same.symm.mem member unsaved
  | @told early outcome same =>
      rcases List.mem_append.1 member with here | there
      · exact same.symm.mem here unsaved
      · exact absurd (List.mem_singleton.1 there) (untold outcome)

theorem reached {epoch : Nat} {registration : Registration Memory} {token : Token}
    {pending : Stack (Frame Memory)} (member : .reached epoch registration token pending ∈ lowered) :
    ∃ saved, .reached epoch registration token saved ∈ happenings := by
  cases lowers with
  | untold same => exact same.symm.reached member
  | told same =>
      rcases List.mem_append.1 member with here | there
      · exact same.symm.reached here
      · cases List.mem_singleton.1 there

theorem transcript_eq (hidden : Registration Memory → Bool)
    (nested : Registration Memory → Nat → Token → List (Moment Memory)) :
    transcript hidden nested none lowered = transcript hidden nested none happenings := by
  cases lowers with
  | untold same => exact (same.transcript_eq hidden nested none).symm
  | told same => rw [transcript_append_told, same.transcript_eq]

end Lowers

theorem Likeness.Hops.of_lowers {likeness : Likeness Memory}
    {nested nested' : Registration Memory → Nat → Token → List (Moment Memory)}
    {told told' : Nat → Option (Outcome Value)}
    {happenings happenings' lowered lowered' : List (Happening Memory)}
    (hops : likeness.Hops nested nested' told told' happenings happenings')
    (lowers : Lowers happenings lowered) (lowers' : Lowers happenings' lowered') :
    likeness.Hops nested nested' told told' lowered lowered' := by
  intro epoch epoch' registration registration' token saved saved' reached reached'
  obtain ⟨pending, listed⟩ := lowers.reached reached
  obtain ⟨pending', listed'⟩ := lowers'.reached reached'
  exact hops epoch epoch' registration registration' token pending pending' listed listed'

namespace Standing

def above (below : List (Frame Memory)) : Standing Memory → Standing Memory
  | .iterating plan pending token => .iterating plan (pending ++ below) token
  | .feeding result pending token => .feeding result (pending ++ below) token
  | .calling site pending token => .calling site (pending ++ below) token
  | .suspended epoch pending token => .suspended epoch (pending ++ below) token
  | .ending outcome => .ending outcome
  | .ended outcome => .ended outcome

theorem above_after (below : List (Frame Memory)) (outcome : Outcome Value)
    (pending : List (Frame Memory)) (token : Token) :
    (after outcome pending token).above below = after outcome (pending ++ below) token := by
  cases outcome <;> rfl

theorem forward?_above (plan : Plan Memory) (pending below : List (Frame Memory)) (token : Token) :
    forward? plan (pending ++ below) token =
      (forward? plan pending token).map fun (happenings, next) => (happenings, next.above below) := by
  cases plan <;> rfl

theorem answered?_above {form : Form} (site : Site Memory) (answer : Answer Memory form)
    (pending below : List (Frame Memory)) (token : Token) :
    site.answered? answer (pending ++ below) token =
      (site.answered? answer pending token).map (above below) := by
  cases site with
  | switching source restore =>
      cases answer with
      | token other =>
          simp only [Site.answered?]
          split
          · rfl
          · cases restore <;> rfl
      | _ => rfl
  | _ => cases answer <;> rfl

theorem panicked_above (site : Site Memory) (panic : Panic) (pending below : List (Frame Memory))
    (token : Token) :
    site.panicked panic (pending ++ below) token =
      ((site.panicked panic pending token).1,
        (site.panicked panic pending token).2.above below) := by
  cases site <;> rfl

def isResult : Standing Memory → Bool
  | .feeding _ [] _ => true
  | _ => false

def isInconclusive : Standing Memory → Bool
  | .ending outcome | .ended outcome => outcome.isCanceled
  | _ => true

variable {below : List (Frame Memory)} {standing next goal : Standing Memory}
  {happenings : List (Happening Memory)} {count : Nat}

@[simp]
theorem isInconclusive_above (standing : Standing Memory) (below : List (Frame Memory)) :
    (standing.above below).isInconclusive = standing.isInconclusive := by
  cases standing <;> rfl

theorem eq_of_isResult (finished : standing.isResult = true) :
    ∃ result token, standing = .feeding result [] token := by
  unfold isResult at finished
  split at finished
  · exact ⟨_, _, rfl⟩
  · cases finished

theorem Step.isInconclusive (step : Step standing happenings next)
    (unfinished : standing.isResult = false) (before : standing.isInconclusive = true) :
    next.isInconclusive = true := by
  cases step with
  | conclude => cases unfinished
  | tell => exact before
  | @cross pending token epoch outcome => cases outcome <;> rfl
  | _ => rfl

/-- Unless there is a result, the frames below take no part in a step. -/
theorem Step.of_above (step : Step (standing.above below) happenings next)
    (unfinished : standing.isResult = false) :
    ∃ inner happenings', Step standing happenings' inner ∧ next = inner.above below ∧
      SameButFrames happenings happenings' := by
  cases standing with
  | iterating plan pending token =>
      have iterated : Iterated plan (pending ++ below) token happenings next :=
        step_iterating_iff.1 step
      cases iterated with
      | stopped => exact ⟨_, _, .stop, rfl, rfl⟩
      | forward goes =>
          rw [forward?_above] at goes
          obtain ⟨⟨early, inner⟩, alone, same⟩ := Option.map_eq_some_iff.1 goes
          cases same
          exact ⟨inner, _, step_iterating_iff.2 (.forward alone), rfl, rfl⟩
      | @reached registration epoch saved boundary saves =>
          obtain ⟨inner, frames⟩ := Stack.exists_toList pending
          exact ⟨.suspended epoch pending token,
            [.looked token false, .reached epoch registration token inner],
            step_iterating_iff.2 (.reached boundary frames), rfl, rfl⟩
      | recalled held => exact ⟨_, _, step_iterating_iff.2 (.recalled held), rfl, rfl⟩
  | feeding result pending token =>
      cases pending with
      | nil => cases unfinished
      | cons frame pending =>
          cases step with
          | skip refused => exact ⟨_, _, .skip refused, rfl, rfl⟩
          | meet taken => exact ⟨_, _, .meet taken, rfl, rfl⟩
  | calling site pending token =>
      have replied : Replied site (pending ++ below) token happenings next :=
        step_calling_iff.1 step
      cases replied with
      | answered goes =>
          rw [answered?_above] at goes
          obtain ⟨inner, alone, rfl⟩ := Option.map_eq_some_iff.1 goes
          exact ⟨inner, _, step_calling_iff.2 (.answered alone), rfl, rfl⟩
      | panicked panic =>
          rw [panicked_above]
          exact ⟨_, _, step_calling_iff.2 (.panicked panic), rfl, rfl⟩
  | suspended epoch pending token =>
      cases step with
      | cross => exact ⟨_, _, .cross, (above_after ..).symm, rfl⟩
  | ending outcome =>
      cases step with
      | tell => exact ⟨_, _, .tell, rfl, rfl⟩
  | ended outcome => cases step

/-- A run that comes to a plan does what the plan does by itself, up to its result. -/
theorem Path.of_above (path : Path count (standing.above below) happenings goal)
    (before : standing.isInconclusive = true) :
    (∃ inner happenings', Path count standing happenings' inner ∧ goal = inner.above below ∧
        SameButFrames happenings happenings' ∧ inner.isInconclusive = true) ∨
      ∃ early late early' fewer result token, happenings = early ++ late ∧
        SameButFrames early early' ∧ Path fewer standing early' (.feeding result [] token) ∧
          Leads (.feeding result below token) late goal := by
  generalize same : standing.above below = place at path
  induction path generalizing standing with
  | done =>
      subst same
      exact .inl ⟨standing, [], .done, rfl, rfl, before⟩
  | @step count place next goal happenings rest step path inductionHypothesis =>
      subst same
      cases finished : standing.isResult with
      | true =>
          obtain ⟨result, token, rfl⟩ := eq_of_isResult finished
          exact .inr ⟨[], _, [], 0, result, token, rfl, rfl, .done, ⟨_, .step step path⟩⟩
      | false =>
          obtain ⟨inner, happenings', step', rfl, alike⟩ := step.of_above finished
          rcases inductionHypothesis (step'.isInconclusive finished before) rfl with
            ⟨last, rest', path', rfl, alikes, undecided⟩ |
              ⟨early, late, early', fewer, result, token, rfl, alikes, path', leads⟩
          · exact .inl ⟨last, _, .step step' path', rfl, alike.append alikes, undecided⟩
          · exact .inr ⟨_, late, _, _, result, token, (List.append_assoc ..).symm,
              alike.append alikes, .step step' path', leads⟩

theorem Step.of_isInconclusive (step : Step standing happenings next)
    (undecided : next.isInconclusive = true) : standing.isInconclusive = true := by
  cases step with
  | tell => exact undecided
  | _ => rfl

theorem Path.of_isInconclusive (path : Path count standing happenings goal)
    (undecided : goal.isInconclusive = true) : standing.isInconclusive = true := by
  induction path with
  | done => exact undecided
  | step first _ inductionHypothesis => exact first.of_isInconclusive (inductionHypothesis undecided)

theorem Step.above (step : Step standing happenings next)
    (undecided : next.isInconclusive = true) (below : List (Frame Memory)) :
    ∃ happenings', Step (standing.above below) happenings' (next.above below) ∧
      SameButFrames happenings happenings' := by
  cases step with
  | @reach registration token epoch pending =>
      obtain ⟨saved, same⟩ := Stack.exists_toList (pending.toList ++ below)
      refine ⟨[.looked token false, .reached epoch registration token saved], ?_, rfl⟩
      simp only [Standing.above, ← same]
      exact .reach
  | cross =>
      rw [above_after]
      exact ⟨_, .cross, rfl⟩
  | conclude =>
      rename_i result token
      cases result <;> cases undecided
  | stop => exact ⟨_, .stop, rfl⟩
  | pure => exact ⟨_, .pure, rfl⟩
  | raise => exact ⟨_, .raise, rfl⟩
  | suspend => exact ⟨_, .suspend, rfl⟩
  | delay => exact ⟨_, .delay, rfl⟩
  | descend sequencing => exact ⟨_, .descend sequencing, rfl⟩
  | hop => exact ⟨_, .hop, rfl⟩
  | «switch» => exact ⟨_, .switch, rfl⟩
  | lookUp => exact ⟨_, .lookUp, rfl⟩
  | skip refused => exact ⟨_, .skip refused, rfl⟩
  | meet taken => exact ⟨_, .meet taken, rfl⟩
  | suspendAnswer => exact ⟨_, .suspendAnswer, rfl⟩
  | delayAnswer => exact ⟨_, .delayAnswer, rfl⟩
  | nameSuspendedAnswer => exact ⟨_, .nameSuspendedAnswer, rfl⟩
  | nameDelayedAnswer => exact ⟨_, .nameDelayedAnswer, rfl⟩
  | continueAnswer => exact ⟨_, .continueAnswer, rfl⟩
  | mapAnswer => exact ⟨_, .mapAnswer, rfl⟩
  | sameToken => exact ⟨_, .sameToken, rfl⟩
  | otherToken different => exact ⟨_, .otherToken different, rfl⟩
  | scopedToken different => exact ⟨_, .scopedToken different, rfl⟩
  | restoreAnswer => exact ⟨_, .restoreAnswer, rfl⟩
  | suspendPanic => exact ⟨_, .suspendPanic, rfl⟩
  | delayPanic => exact ⟨_, .delayPanic, rfl⟩
  | nameDelayedPanic => exact ⟨_, .nameDelayedPanic, rfl⟩
  | panic raises => exact ⟨_, .panic raises, rfl⟩
  | tell => exact ⟨_, .tell, rfl⟩

theorem Path.above (path : Path count standing happenings goal)
    (undecided : goal.isInconclusive = true) (below : List (Frame Memory)) :
    ∃ happenings', Path count (standing.above below) happenings' (goal.above below) ∧
      SameButFrames happenings happenings' := by
  induction path with
  | done => exact ⟨[], .done, rfl⟩
  | step first path inductionHypothesis =>
      obtain ⟨early, first', same⟩ := first.above (path.of_isInconclusive undecided) below
      obtain ⟨late, path', alike⟩ := inductionHypothesis undecided
      exact ⟨_, .step first' path', same.append alike⟩

theorem Path.conclusion (path : Path count standing happenings goal)
    (before : standing.isInconclusive = true) :
    goal.isInconclusive = true ∨
      ∃ early late fewer result other, happenings = early ++ late ∧
        Path fewer standing early (.feeding result [] other) ∧
          Leads (.feeding result [] other) late goal := by
  induction path with
  | done => exact .inl before
  | @step count standing next goal happenings rest first path inductionHypothesis =>
      cases finished : standing.isResult with
      | true =>
          obtain ⟨result, token, rfl⟩ := eq_of_isResult finished
          exact .inr ⟨[], _, 0, result, token, rfl, .done, ⟨_, .step first path⟩⟩
      | false =>
          refine (inductionHypothesis (first.isInconclusive finished before)).imp_right ?_
          rintro ⟨early, late, fewer, result, other, rfl, path', leads⟩
          exact ⟨_, late, _, result, other, (List.append_assoc ..).symm, .step first path', leads⟩

theorem Path.of_result {result : Result} {below : List (Frame Memory)} {token : Token}
    (path : Path count (.iterating (.ofResult result) below token) happenings goal) :
    (happenings = [] ∧ goal = .iterating (.ofResult result) below token) ∨
      (∃ more, happenings = .looked token true :: more) ∨
      ∃ fewer more, count = fewer + 1 ∧ happenings = .looked token false :: more ∧
        Path fewer (.feeding result below token) more goal := by
  cases path with
  | done => exact .inl ⟨rfl, rfl⟩
  | step first path =>
      cases result with
      | ok value =>
          cases first with
          | stop => exact .inr (.inl ⟨_, rfl⟩)
          | pure => exact .inr (.inr ⟨_, _, rfl, rfl, path⟩)
          | descend sequencing => cases sequencing
      | error failure =>
          cases first with
          | stop => exact .inr (.inl ⟨_, rfl⟩)
          | raise => exact .inr (.inr ⟨_, _, rfl, rfl, path⟩)
          | descend sequencing => cases sequencing

theorem Leads.of_result {result : Result} {below : List (Frame Memory)} {token : Token}
    (leads : Leads (.iterating (.ofResult result) below token) happenings goal) :
    (happenings = [] ∧ goal = .iterating (.ofResult result) below token) ∨
      (∃ more, happenings = .looked token true :: more) ∨
      ∃ more, happenings = .looked token false :: more ∧
        Leads (.feeding result below token) more goal := by
  obtain ⟨count, path⟩ := leads
  refine path.of_result.imp_right fun looked => looked.imp_right ?_
  rintro ⟨fewer, more, _, rfl, path'⟩
  exact ⟨more, rfl, fewer, path'⟩

end Standing

/-- What a plan does by itself up to its result, and the token it has then. -/
def Plan.Finishes (plan : Plan Memory) (token : Token) (happenings : List (Happening Memory))
    (result : Result) (other : Token) : Prop :=
  ∃ happenings', SameButFrames happenings happenings' ∧
    Standing.Leads (.iterating plan [] token) happenings' (.feeding result [] other)

end Trampoline
