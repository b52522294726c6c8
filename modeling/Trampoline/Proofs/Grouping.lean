import Trampoline.Proofs.Counterparts

/-!
Continuations may be grouped.

A plan that goes on with two continuations in a row, and the plan in which the second one is part of
what the first one answers, push different frames, and their runs look at the token differently
often.  But what they do is the same: the same calls, the same boundaries and the same outcome.
-/

namespace Trampoline

variable {Memory : Type}

/-- Continuations are grouped, and nothing else is varied but the functions. -/
def Variation.grouping (likeness : Likeness Memory) : Variation Memory :=
  { likeness with laws := fun law => law = .grouping }

theorem Variation.Matches.forall₂_of_grouping {likeness : Likeness Memory}
    {done done' : List (Happening Memory)} (same : (grouping likeness).Matches done done') :
    List.Forall₂ (grouping likeness).Deeds done done' :=
  same.forall₂ (fun law => by cases law) (fun law => by cases law)

/-- Going on with one continuation after another is associative.  Whatever surrounds the two
continuations, the program in which they are grouped calls the same functions in the same order with
the same arguments under the same tokens, reaches the same boundaries and tells the same outcome, its
nested runs included, if its functions reply alike whatever their code is told, its tokens are found
canceled alike, and its boundaries complete alike.  Functions that are told what a machine has done
may reply alike all the same. -/
theorem grouped_continuations_do_the_same (likeness : Likeness Memory)
    (chronicle chronicle' : Chronicle Memory) (reachable : chronicle.Reachable)
    (reachable' : chronicle'.Reachable) (run run' : Nat) (plan plan' : Plan Memory)
    (plans : (Variation.grouping likeness).Plans plan plan') (token : Token)
    (receiver receiver' : Receiver Memory)
    (started : (course run chronicle.history).head? = some (.started plan {} token receiver))
    (started' : (course run' chronicle'.history).head? = some (.started plan' {} token receiver'))
    (concords : ∀ inner inner', Chronicle.Paired chronicle chronicle' run run' inner inner' →
      chronicle.Concords chronicle' (.grouping likeness) inner inner') :
    (∀ source source' next next' last last', (Variation.grouping likeness).Plans source source' →
      likeness.functions (.continuing next) (.continuing next') →
      likeness.functions (.continuing last) (.continuing last') →
        (Variation.grouping likeness).Plans (.bind (.bind source next) last)
          (.bind source' (grouped next' last'))) ∧
    ∀ inner inner', Chronicle.Paired chronicle chronicle' run run' inner inner' →
      let done := deeds (course inner chronicle.history)
      let done' := deeds (course inner' chronicle'.history)
      let alike := List.Forall₂ (Variation.grouping likeness).Deeds
      Concur alike done done' ∧
        (chronicle.pool.rests inner = true → chronicle'.pool.rests inner' = true →
          (∀ epoch, completions epoch (recordsOf inner chronicle.history) = [] ↔
            completions epoch (recordsOf inner' chronicle'.history) = []) → alike done done') := by
  refine ⟨fun _ _ _ _ _ _ sources nexts lasts => .grouped rfl sources nexts lasts, ?_⟩
  intro inner inner' paired
  have start : chronicle.StartVaried chronicle' (.grouping likeness) run run' :=
    ⟨_, _, _, _, _, _, _, started, started', plans, .nil⟩
  have time := paired.keepTime reachable reachable' start concords
  refine ⟨time.concur.mono fun _ _ same => same.forall₂_of_grouping, ?_⟩
  intro rests rests' completed
  exact (time.deeds_of_rests reachable reachable' rests rests' completed).forall₂_of_grouping

theorem completions_eq_of_single {records records' : List (Record Unit)}
    (single : (reaches records).map Reach.epoch = [1])
    (single' : (reaches records').map Reach.epoch = [1])
    (same : completions 1 records = completions 1 records') (epoch : Nat) :
    completions epoch records = completions epoch records' := by
  by_cases first : epoch = 1
  · rw [first, same]
  · rw [completions_of_single single first, completions_of_single single' first]

section Canceling

def registerAtOnce (_token : Token) (completer : Completer) : Code Unit .unit :=
  .complete completer (.ok (.datum .null)) fun _ => Code.unit

def answerAgain (value : Value) : Code Unit .plan := Code.plan (.pure value)

def answerCanceling (value : Value) : Code Unit .plan :=
  .ask (.cancel (.tracked 0) none) fun _ => Code.plan (.pure value)

/-- A boundary and two continuations in a row, of which the second one cancels the token. -/
def Plan.inRow : Plan Unit :=
  .bind (.bind (.async (.calling registerAtOnce)) answerAgain) answerCanceling

def Plan.inOne : Plan Unit :=
  .bind (.async (.calling registerAtOnce)) (grouped answerAgain answerCanceling)

def Chronicle.underToken (plan : Plan Unit) : Chronicle Unit :=
  (Pool.opening () [(none, .ask .newToken fun (token : Token) =>
    .run plan token (fun _ => Code.unit) fun _ => Code.unit)]).chronicle (List.replicate 40 0)

theorem course_inRow : course 0 (Chronicle.underToken .inRow).history =
    [.started .inRow {} (.tracked 0) (.code fun _ => Code.unit), .looked (.tracked 0) false,
      .looked (.tracked 0) false, .looked (.tracked 0) false,
      .reached 1 (.calling registerAtOnce) (.tracked 0)
        ⟨some (.bind answerAgain), #[.bind answerCanceling]⟩,
      .crossed 1 (.completed (.datum .null)), .looked (.tracked 0) false,
      .called (.continuing answerAgain (.datum .null)) (.tracked 0),
      .answered (.plan (.pure (.datum .null))), .looked (.tracked 0) false,
      .called (.continuing answerCanceling (.datum .null)) (.tracked 0),
      .answered (.plan (.pure (.datum .null))), .looked (.tracked 0) true, .told .canceled] := by
  cbv

theorem course_inOne : course 0 (Chronicle.underToken .inOne).history =
    [.started .inOne {} (.tracked 0) (.code fun _ => Code.unit), .looked (.tracked 0) false,
      .looked (.tracked 0) false,
      .reached 1 (.calling registerAtOnce) (.tracked 0)
        ⟨some (.bind (grouped answerAgain answerCanceling)), #[]⟩,
      .crossed 1 (.completed (.datum .null)), .looked (.tracked 0) false,
      .called (.continuing (grouped answerAgain answerCanceling) (.datum .null)) (.tracked 0),
      .answered (.plan (.bind (.pure (.datum .null)) answerCanceling)),
      .looked (.tracked 0) false, .looked (.tracked 0) false,
      .called (.continuing answerCanceling (.datum .null)) (.tracked 0),
      .answered (.plan (.pure (.datum .null))), .looked (.tracked 0) true, .told .canceled] := by
  cbv

def likenessInRow : Likeness Unit :=
  .among (· ∈ [.registering registerAtOnce, .continuing answerAgain, .continuing answerCanceling])

theorem plans_inRow : (Variation.grouping likenessInRow).Plans .inRow .inOne :=
  .grouped rfl (.of_heads (.async (.calling ⟨rfl, by simp⟩) .nil)) ⟨rfl, by simp⟩ ⟨rfl, by simp⟩

theorem replied_inRow {next : Value → Code Unit .plan} {value : Value} {happening : Happening Unit}
    (known : next = answerAgain ∨ next = answerCanceling)
    (replied : (Call.continuing next value).Replied happening) :
    happening = .answered (.plan (.pure value)) := by
  obtain ⟨reply, shown, may⟩ := replied
  have ends {ending : Except Payload (Answer Unit .plan)} (ends : (next value).Ends ending) :
      ending = .ok (.plan (.pure value)) := by
    rcases known with rfl | rfl
    · cases ends
      rfl
    · cases ends with
      | ask later =>
          cases later
          rfl
  cases may with
  | answered gives =>
      cases ends gives
      cases happening <;> cases shown
      rfl
  | panicked fails => cases ends fails

theorem determined_inRow : (Variation.grouping likenessInRow).Determined := by
  intro call call' calls happening happening' replied replied'
  cases calls with
  | @continuing next _ _ _ functions values =>
      obtain ⟨same, member⟩ := functions
      cases same
      have known : next = answerAgain ∨ next = answerCanceling := by simpa using member
      rw [replied_inRow known replied, replied_inRow known replied']
      exact .answered (.plan (.of_heads (.pure values .nil)))
  | suspended functions | delayed functions | naming functions | handling functions
  | mapping functions | switching functions | restoring functions =>
      simp [Variation.grouping, likenessInRow, Likeness.among] at functions

/-- The third deed cancels the token. -/
def LookedWhileCanceling (front : List (Happening Unit)) : List (Happening Unit) → Prop
  | .looked _ found :: _ => found = decide ((deeds front).length = 3)
  | .recalled _ _ :: _ => False
  | _ => True

theorem throughout_inRow : Throughout LookedWhileCanceling []
    (course 0 (Chronicle.underToken .inRow).history) := by
  rw [course_inRow]
  simp [Throughout, LookedWhileCanceling, deeds, Happening.isDeed, List.filter_cons]

theorem throughout_inOne : Throughout LookedWhileCanceling []
    (course 0 (Chronicle.underToken .inOne).history) := by
  rw [course_inOne]
  simp [Throughout, LookedWhileCanceling, deeds, Happening.isDeed, List.filter_cons]

theorem concord_inRow : (Variation.grouping likenessInRow).Concord
    (course 0 (Chronicle.underToken .inRow).history)
    (course 0 (Chronicle.underToken .inOne).history) where
  looked front rest front' rest' token found found' split split' same := by
    have here : LookedWhileCanceling _ _ := (split ▸ throughout_inRow).of_append
    have here' : LookedWhileCanceling _ _ := (split' ▸ throughout_inOne).of_append
    have lengths := same.forall₂_of_grouping.length_eq
    rw [List.nil_append] at here here'
    rw [LookedWhileCanceling] at here here'
    rw [here, here', lengths]
  recalled front rest front' rest' kept kept' plan plan' split :=
    (split ▸ throughout_inRow).of_append.elim

theorem rests_inRow : (Chronicle.underToken .inRow).pool.rests 0 = true := by
  cbv

theorem rests_inOne : (Chronicle.underToken .inOne).pool.rests 0 = true := by
  cbv

theorem alone_inRow : ((Chronicle.underToken .inRow).pool.host.runs.all
    fun entry => !entry.receiver.isForward) = true := by
  cbv

theorem reaches_inRow :
    (reaches (recordsOf 0 (Chronicle.underToken .inRow).history)).map Reach.epoch = [1] := by
  cbv

theorem reaches_inOne :
    (reaches (recordsOf 0 (Chronicle.underToken .inOne).history)).map Reach.epoch = [1] := by
  cbv

theorem completions_inRow : completions 1 (recordsOf 0 (Chronicle.underToken .inRow).history) =
    completions 1 (recordsOf 0 (Chronicle.underToken .inOne).history) := by
  cbv

/-- Where the second continuation cancels the token, both runs have called both continuations, and
both are canceled. -/
theorem grouped_continuations_do_the_same_canceling :
    (Chronicle.underToken .inRow).Reachable ∧ (Chronicle.underToken .inOne).Reachable ∧
      (Variation.grouping likenessInRow).Determined ∧
        List.Forall₂ (Variation.grouping likenessInRow).Deeds
          (deeds (course 0 (Chronicle.underToken .inRow).history))
          (deeds (course 0 (Chronicle.underToken .inOne).history)) := by
  have reachable : (Chronicle.underToken .inRow).Reachable := ⟨_, _, _, rfl⟩
  have reachable' : (Chronicle.underToken .inOne).Reachable := ⟨_, _, _, rfl⟩
  have completed := completions_eq_of_single reaches_inRow reaches_inOne completions_inRow
  have concords : ∀ inner inner', Chronicle.Paired (.underToken .inRow) (.underToken .inOne) 0 0
      inner inner' → (Chronicle.underToken .inRow).Concords (.underToken .inOne)
        (.grouping likenessInRow) inner inner' := by
    intro inner inner' paired
    obtain ⟨rfl, rfl⟩ := paired.eq_of_alone alone_inRow
    refine ⟨concord_inRow, .inl determined_inRow, ?_, fun law => by cases law⟩
    intro epoch outcome outcome' maker maker' first first'
    rw [completed epoch] at first
    cases first.symm.trans first'
    exact .inr (.refl outcome)
  have both := grouped_continuations_do_the_same likenessInRow (.underToken .inRow)
    (.underToken .inOne) reachable reachable' 0 0 .inRow .inOne plans_inRow (.tracked 0)
    (.code fun _ => Code.unit) (.code fun _ => Code.unit) (by rw [course_inRow]; rfl)
    (by rw [course_inOne]; rfl) concords
  refine ⟨reachable, reachable', determined_inRow,
    (both.2 0 0 .self).2 rests_inRow rests_inOne fun epoch => ?_⟩
  rw [completed epoch]

end Canceling

section Asking

def Plan.askingInRow : Plan Unit := .bind (.bind (.delay askInstalled) answerAgain) answerAgain

def Plan.askingInOne : Plan Unit := .bind (.delay askInstalled) (grouped answerAgain answerAgain)

theorem courses_asking :
    course 0 (Chronicle.underToken .askingInRow).history =
        [.started .askingInRow {} (.tracked 0) (.code fun _ => Code.unit),
          .looked (.tracked 0) false, .looked (.tracked 0) false, .looked (.tracked 0) false,
          .called (.delayed askInstalled) (.tracked 0), .answered (.value (.datum (.bool true))),
          .called (.continuing answerAgain (.datum (.bool true))) (.tracked 0),
          .answered (.plan (.pure (.datum (.bool true)))), .looked (.tracked 0) false,
          .called (.continuing answerAgain (.datum (.bool true))) (.tracked 0),
          .answered (.plan (.pure (.datum (.bool true)))), .looked (.tracked 0) false,
          .told (.completed (.datum (.bool true)))] ∧
      course 0 (Chronicle.underToken .askingInOne).history =
        [.started .askingInOne {} (.tracked 0) (.code fun _ => Code.unit),
          .looked (.tracked 0) false, .looked (.tracked 0) false,
          .called (.delayed askInstalled) (.tracked 0), .answered (.value (.datum (.bool false))),
          .called (.continuing (grouped answerAgain answerAgain) (.datum (.bool false)))
            (.tracked 0),
          .answered (.plan (.bind (.pure (.datum (.bool false))) answerAgain)),
          .looked (.tracked 0) false, .looked (.tracked 0) false,
          .called (.continuing answerAgain (.datum (.bool false))) (.tracked 0),
          .answered (.plan (.pure (.datum (.bool false)))), .looked (.tracked 0) false,
          .told (.completed (.datum (.bool false)))] := by
  constructor <;> cbv

/-- How continuations are grouped shows to a thunk that asks whether settings are fixed: where they
are in a row, two frames are pending when it is called, and the second one has read settings. -/
theorem grouping_shows_in_settings :
    (Chronicle.underToken .askingInRow).Reachable ∧ (Chronicle.underToken .askingInOne).Reachable ∧
      (Variation.grouping (.same Unit)).Plans .askingInRow .askingInOne ∧
      (course 0 (Chronicle.underToken .askingInRow).history).head? =
        some (.started .askingInRow {} (.tracked 0) (.code fun _ => Code.unit)) ∧
      (course 0 (Chronicle.underToken .askingInOne).history).head? =
        some (.started .askingInOne {} (.tracked 0) (.code fun _ => Code.unit)) ∧
      .told (.completed (.datum (.bool true))) ∈
        course 0 (Chronicle.underToken .askingInRow).history ∧
      .told (.completed (.datum (.bool false))) ∈
        course 0 (Chronicle.underToken .askingInOne).history := by
  rw [courses_asking.1, courses_asking.2]
  refine ⟨⟨_, _, _, rfl⟩, ⟨_, _, _, rfl⟩, .grouped rfl (.refl (fun _ => rfl) _) rfl rfl, rfl, rfl,
    ?_, ?_⟩
  · simp
  · simp

end Asking

end Trampoline
