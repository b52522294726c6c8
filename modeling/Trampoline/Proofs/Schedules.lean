import Mathlib
import Trampoline.Proofs.Determinacy

/-!
Schedules of completions.

Boundaries may be completed while their registration is running or later, and on any thread.  What a
program does is the same then, if its functions reply alike: not so if what they reply depends on the
memory, and a registration changes that while its boundary may be completed already.
-/

namespace Trampoline

variable {Memory : Type}

/-- Whenever and wherever boundaries complete, and if boundaries are replaced by the results that
they complete with, runs of programs that are alike call what is alike in the same order, reach
boundaries under the same tokens, and tell outcomes that are alike, if what they ask alike is replied
alike: so if functions reply alike whatever they are told. -/
theorem timing_changes_nothing (likeness : Likeness Memory) (canceled : Token → Bool)
    (chronicle chronicle' : Chronicle Memory) (reachable : chronicle.Reachable)
    (reachable' : chronicle'.Reachable) (run run' : Nat) (plan plan' : Plan Memory)
    (plans : likeness.Plans plan plan') (token : Token) (receiver receiver' : Receiver Memory)
    (started : (course run chronicle.history).head? = some (.started plan {} token receiver))
    (started' : (course run' chronicle'.history).head? = some (.started plan' {} token receiver'))
    (orderly : ∀ inner, chronicle.Nests run inner →
      chronicle.Orderly canceled likeness.replaced inner)
    (orderly' : ∀ inner, chronicle'.Nests run' inner →
      chronicle'.Orderly canceled (fun _ => none) inner)
    (reliable : likeness.Reliable id id (chronicle.transcript likeness.hides run)
      (chronicle'.transcript (fun _ => false) run')) :
    let moments := chronicle.transcript likeness.hides run
    let others := chronicle'.transcript (fun _ => false) run'
    likeness.Together moments others ∧
      (∀ outcome, .told outcome ∈ course run chronicle.history →
        others.length ≤ moments.length ∧
          ∀ other, .told other ∈ course run' chronicle'.history →
            List.Forall₂ likeness.Moments moments others ∧ likeness.Outcomes outcome other) ∧
      (∀ other, .told other ∈ course run' chronicle'.history → moments.length ≤ others.length) ∧
      (chronicle.pool.rests run = true →
        (∃ outcome, .told outcome ∈ course run chronicle.history) ∨ chronicle.Resumable run) ∧
      (chronicle'.pool.rests run' = true →
        (∃ other, .told other ∈ course run' chronicle'.history) ∨ chronicle'.Resumable run') := by
  intro moments others
  have consistent := reliable.consistent (reachable.exchanges likeness.hides run)
    (reachable'.exchanges (fun _ => false) run')
  have inStep := Chronicle.inStep reachable reachable' plans .nil started started'
    orderly orderly' consistent
  refine ⟨inStep.together, ?_, ?_, reachable.told_or_resumable started,
    reachable'.told_or_resumable started'⟩
  · intro outcome told
    rw [Chronicle.told_eq_some reachable.holds told] at inStep
    refine ⟨inStep.first rfl, ?_⟩
    intro other told'
    rw [Chronicle.told_eq_some reachable'.holds told'] at inStep
    have length := Nat.le_antisymm (inStep.second rfl) (inStep.first rfl)
    exact ⟨inStep.together.forall₂ length, inStep.outcomes _ _ rfl rfl⟩
  · intro other told'
    rw [Chronicle.told_eq_some reachable'.holds told'] at inStep
    exact inStep.second rfl

section EitherWay

/-- A registration that completes its boundary itself if the memory says so. -/
def registerEitherWay (_token : Token) (completer : Completer) : Code Bool .unit :=
  .ask .recall fun (inside : Bool) =>
    if inside then .complete completer (.ok (.datum .null)) fun _ => Code.unit else Code.unit

def answerEitherWay (_value : Value) : Code Bool .value := Code.value (.datum (.bool true))

def Plan.eitherWay : Plan Bool := .map (.async (.calling registerEitherWay)) answerEitherWay

def Chronicle.eitherWay (inside : Bool) (schedule : List Nat) : Chronicle Bool :=
  (Pool.opening inside (Plan.eitherWay.alone ++
    [(none, .complete ⟨0, 1⟩ (.ok (.datum .null)) fun _ => Code.unit)])).chronicle schedule

def courseEitherWay : List (Happening Bool) :=
  [.started .eitherWay {} .uncancelable (.code fun _ => Code.unit),
    .looked .uncancelable false, .looked .uncancelable false,
    .reached 1 (.calling registerEitherWay) .uncancelable ⟨some (.map answerEitherWay), #[]⟩,
    .crossed 1 (.completed (.datum .null)), .looked .uncancelable false,
    .called (.mapping answerEitherWay (.datum .null)) .uncancelable,
    .answered (.value (.datum (.bool true))), .looked .uncancelable false,
    .told (.completed (.datum (.bool true)))]

theorem course_eitherWay_inside :
    course 0 (Chronicle.eitherWay true (List.replicate 14 0)).history = courseEitherWay := by
  cbv

theorem course_eitherWay_outside :
    course 0 (Chronicle.eitherWay false (List.replicate 7 0 ++ List.replicate 9 1)).history =
      courseEitherWay := by
  cbv

theorem alone_eitherWay_inside :
    ((Chronicle.eitherWay true (List.replicate 14 0)).pool.host.runs.all
      fun entry => !entry.receiver.isForward) = true := by
  cbv

theorem alone_eitherWay_outside :
    ((Chronicle.eitherWay false (List.replicate 7 0 ++ List.replicate 9 1)).pool.host.runs.all
      fun entry => !entry.receiver.isForward) = true := by
  cbv

def likenessEitherWay : Likeness Bool :=
  .among fun closure =>
    closure = .registering registerEitherWay ∨ closure = .mapping answerEitherWay

theorem determined_eitherWay : likenessEitherWay.Determined id id := by
  refine Likeness.determined_of_answers fun call call' calls => ?_
  cases calls with
  | mapping functions =>
      obtain ⟨same, registers | answers⟩ := functions
      · cases registers
      · cases same
        cases answers
        exact ⟨_, _, rfl, rfl, .answered (.value .datum)⟩
  | suspended functions | delayed functions | naming functions | continuing functions
  | handling functions | switching functions | restoring functions =>
      obtain ⟨_, registers | answers⟩ := functions
      · cases registers
      · cases answers

theorem plans_eitherWay : likenessEitherWay.Plans .eitherWay .eitherWay :=
  .sequencing rfl rfl (.map ⟨rfl, .inr rfl⟩) (.calling rfl ⟨rfl, .inl rfl⟩)

/-- What the plan calls and tells is the same whether its boundary is completed by the registration
or, later, by another thread. -/
theorem timing_changes_nothing_eitherWay :
    let inside := Chronicle.eitherWay true (List.replicate 14 0)
    let outside := Chronicle.eitherWay false (List.replicate 7 0 ++ List.replicate 9 1)
    inside.Reachable ∧ outside.Reachable ∧ likenessEitherWay.Determined id id ∧
      List.Forall₂ likenessEitherWay.Moments (inside.transcript (fun _ => false) 0)
        (outside.transcript (fun _ => false) 0) := by
  intro inside outside
  have listed : course 0 inside.history = courseEitherWay := course_eitherWay_inside
  have listed' : course 0 outside.history = courseEitherWay := course_eitherWay_outside
  have reachable : inside.Reachable := ⟨_, _, _, rfl⟩
  have reachable' : outside.Reachable := ⟨_, _, _, rfl⟩
  have settled : likenessEitherWay.Settled (inside.transcript (fun _ => false) 0)
      (outside.transcript (fun _ => false) 0) := by
    rw [Chronicle.transcript_of_started _ _ listed, Chronicle.transcript_of_started _ _ listed']
    exact fun _ => ⟨fun _ _ => .crossed (.completed .datum), fun _ _ =>
      ⟨by rintro ⟨⟩, fun _ => trivial⟩⟩
  have told : .told (.completed (.datum (.bool true))) ∈ courseEitherWay := by
    simp [courseEitherWay]
  have changesNothing := timing_changes_nothing likenessEitherWay (fun _ => false) inside outside
    reachable reachable' 0 0 .eitherWay .eitherWay plans_eitherWay .uncancelable
    (.code fun _ => Code.unit) (.code fun _ => Code.unit) (by rw [listed]; rfl) (by rw [listed']; rfl)
    (Chronicle.orderly_of_alone alone_eitherWay_inside listed rfl)
    (Chronicle.orderly_of_alone alone_eitherWay_outside listed' rfl)
  have shows : likenessEitherWay.hides = fun _ => false := Likeness.hides_eq_false fun _ => rfl
  rw [shows] at changesNothing
  have both := ((changesNothing (.inl ⟨determined_eitherWay, settled⟩)).2.1 _ (listed ▸ told)).2 _
    (listed' ▸ told)
  exact ⟨reachable, reachable', determined_eitherWay, both.1⟩

end EitherWay

section Marking

/-- A registration that leaves its boundary to others, and marks the memory. -/
def registerMarking (_token : Token) (_completer : Completer) : Code Bool .unit :=
  .ask (.modify fun _ => true) fun _ => Code.unit

def answerMark (_value : Value) : Code Bool .value :=
  .ask .recall fun (marked : Bool) => Code.value (.datum (.bool marked))

def Plan.marking : Plan Bool := .map (.async (.calling registerMarking)) answerMark

def Chronicle.marking (schedule : List Nat) : Chronicle Bool :=
  (Pool.opening false (Plan.marking.alone ++
    [(none, .complete ⟨0, 1⟩ (.ok (.datum .null)) fun _ => Code.unit)])).chronicle schedule

def courseMarking (marked : Bool) : List (Happening Bool) :=
  [.started .marking {} .uncancelable (.code fun _ => Code.unit),
    .looked .uncancelable false, .looked .uncancelable false,
    .reached 1 (.calling registerMarking) .uncancelable ⟨some (.map answerMark), #[]⟩,
    .crossed 1 (.completed (.datum .null)), .looked .uncancelable false,
    .called (.mapping answerMark (.datum .null)) .uncancelable,
    .answered (.value (.datum (.bool marked))), .looked .uncancelable false,
    .told (.completed (.datum (.bool marked)))]

/-- The other thread completes the boundary before the registration has come to mark the memory. -/
def Chronicle.markingLate : Chronicle Bool :=
  .marking (List.replicate 3 0 ++ List.replicate 9 1 ++ List.replicate 2 0)

def Chronicle.markingEarly : Chronicle Bool :=
  .marking (List.replicate 7 0 ++ List.replicate 9 1)

theorem course_markingLate : course 0 Chronicle.markingLate.history = courseMarking false := by
  cbv

theorem course_markingEarly : course 0 Chronicle.markingEarly.history = courseMarking true := by
  cbv

theorem alone_markingLate :
    (Chronicle.markingLate.pool.host.runs.all fun entry => !entry.receiver.isForward) = true := by
  cbv

theorem alone_markingEarly :
    (Chronicle.markingEarly.pool.host.runs.all fun entry => !entry.receiver.isForward) = true := by
  cbv

/-- What a registration does besides shows in the memory: the boundary is completed once, with the
same outcome, but what is read after it depends on when. -/
theorem timing_shows_in_memory :
    Chronicle.markingLate.Reachable ∧ Chronicle.markingEarly.Reachable ∧
      (course 0 Chronicle.markingLate.history).head? =
        (course 0 Chronicle.markingEarly.history).head? ∧
      (∀ inner, Chronicle.markingLate.Nests 0 inner →
        Chronicle.markingLate.Orderly (fun _ => false) (fun _ => none) inner) ∧
      (∀ inner, Chronicle.markingEarly.Nests 0 inner →
        Chronicle.markingEarly.Orderly (fun _ => false) (fun _ => none) inner) ∧
      .crossed 1 (.completed (.datum .null)) ∈ course 0 Chronicle.markingLate.history ∧
      .crossed 1 (.completed (.datum .null)) ∈ course 0 Chronicle.markingEarly.history ∧
      .told (.completed (.datum (.bool false))) ∈ course 0 Chronicle.markingLate.history ∧
      .told (.completed (.datum (.bool true))) ∈ course 0 Chronicle.markingEarly.history := by
  refine ⟨⟨_, _, _, rfl⟩, ⟨_, _, _, rfl⟩, ?_,
    Chronicle.orderly_of_alone alone_markingLate course_markingLate rfl,
    Chronicle.orderly_of_alone alone_markingEarly course_markingEarly rfl, ?_⟩
  · rw [course_markingLate, course_markingEarly]
    rfl
  · rw [course_markingLate, course_markingEarly]
    simp [courseMarking]

end Marking

end Trampoline
