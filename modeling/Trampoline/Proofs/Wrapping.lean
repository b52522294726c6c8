import Trampoline.Proofs.Grouping

/-!
Wrapping a plan neutrally changes nothing.

A plan may be wrapped into what only passes its result on: its value to the pure plan, or its failure
to the plan that raises it.  And a continuation of a pure plan may be called by a thunk.  The runs of
such programs do the same, up to the calls of the neutral functions themselves.  What is wrapped may
not be canceled, since the frames of wrappers are reached by going on alone, with looks at the token
on the way; a thunk is called where the continuation would be, canceled or not.
-/

namespace Trampoline

variable {Memory : Type}

/-- Continuations of pure plans are called by thunks, and plans may be wrapped; nothing else is
varied but the functions. -/
def Variation.neutral (likeness : Likeness Memory) (wraps : Bool) : Variation Memory :=
  { likeness with laws := fun law => law = .starting ∨ (law = .wrapping ∧ wraps = true) }

/-- Neutral wrappers are neutral.  Whatever surrounds the plans that are wrapped and the continuations
that are called by thunks, the program calls the same functions in the same order with the same
arguments under the same tokens, reaches the same boundaries and tells the same outcome as without,
its nested runs included, if its functions reply alike whatever their code is told, its tokens are
found canceled alike, and its boundaries complete alike; besides, it calls only neutral functions.
Where plans are wrapped no active token may be canceled.  Functions that are told what a machine has
done may reply alike all the same. -/
theorem neutral_wrappers_do_the_same (likeness : Likeness Memory) (wraps : Bool)
    (chronicle chronicle' : Chronicle Memory) (reachable : chronicle.Reachable)
    (reachable' : chronicle'.Reachable) (run run' : Nat) (plan plan' : Plan Memory)
    (plans : (Variation.neutral likeness wraps).Plans plan plan') (token : Token)
    (receiver receiver' : Receiver Memory)
    (started : (course run chronicle.history).head? = some (.started plan {} token receiver))
    (started' : (course run' chronicle'.history).head? = some (.started plan' {} token receiver'))
    (concords : ∀ inner inner', Chronicle.Paired chronicle chronicle' run run' inner inner' →
      chronicle.Concords chronicle' (.neutral likeness wraps) inner inner') :
    (wraps = true → ∀ source source', (Variation.neutral likeness wraps).Plans source source' →
      ∀ wrapper : Wrapper,
        (Variation.neutral likeness wraps).Plans source (wrapper.wrap source')) ∧
    (∀ value value' next next', likeness.Values value value' →
      likeness.functions (.continuing next) (.continuing next') →
      (Variation.neutral likeness wraps).Plans (.bind (.pure value) next)
        (.suspend fun _ => next' value')) ∧
    ∀ inner inner', Chronicle.Paired chronicle chronicle' run run' inner inner' →
      let done := deeds (course inner chronicle.history)
      let done' := deeds (course inner' chronicle'.history)
      let alike := (Variation.neutral likeness wraps).Matches
      Concur alike done done' ∧
        (chronicle.pool.rests inner = true → chronicle'.pool.rests inner' = true →
          (∀ epoch, completions epoch (recordsOf inner chronicle.history) = [] ↔
            completions epoch (recordsOf inner' chronicle'.history) = []) → alike done done') := by
  refine ⟨fun wraps _ _ sources => .wrapped (.inr ⟨rfl, wraps⟩) sources,
    fun _ _ _ _ values functions => .started (.inl rfl) values functions, ?_⟩
  intro inner inner' paired
  have start : chronicle.StartVaried chronicle' (.neutral likeness wraps) run run' :=
    ⟨_, _, _, _, _, _, _, started, started', plans, .nil⟩
  have time := paired.keepTime reachable reachable' start concords
  exact ⟨time.concur, time.deeds_of_rests reachable reachable'⟩

section Attempting

def startAtOnce (_value : Value) : Code Unit .plan := Code.plan (.async (.calling registerAtOnce))

def answerKept (value : Value) : Code Unit .value := Code.value value

def Plan.unwrapped : Plan Unit := .map (.bind (.pure (.datum .null)) startAtOnce) answerKept

def Plan.wrapped : Plan Unit :=
  .map (Wrapper.attempt.wrap (.suspend fun _ => startAtOnce (.datum .null))) answerKept

theorem course_unwrapped : course 0 (Chronicle.underToken .unwrapped).history =
    [.started .unwrapped {} (.tracked 0) (.code fun _ => Code.unit), .looked (.tracked 0) false,
      .looked (.tracked 0) false, .looked (.tracked 0) false,
      .called (.continuing startAtOnce (.datum .null)) (.tracked 0),
      .answered (.plan (.async (.calling registerAtOnce))), .looked (.tracked 0) false,
      .reached 1 (.calling registerAtOnce) (.tracked 0) ⟨none, #[.map answerKept]⟩,
      .crossed 1 (.completed (.datum .null)), .looked (.tracked 0) false,
      .called (.mapping answerKept (.datum .null)) (.tracked 0),
      .answered (.value (.datum .null)), .looked (.tracked 0) false,
      .told (.completed (.datum .null))] := by
  cbv

theorem course_wrapped : course 0 (Chronicle.underToken .wrapped).history =
    [.started .wrapped {} (.tracked 0) (.code fun _ => Code.unit), .looked (.tracked 0) false,
      .looked (.tracked 0) false, .looked (.tracked 0) false, .looked (.tracked 0) false,
      .called (.suspended fun _ => startAtOnce (.datum .null)) (.tracked 0),
      .answered (.plan (.async (.calling registerAtOnce))), .looked (.tracked 0) false,
      .reached 1 (.calling registerAtOnce) (.tracked 0)
        ⟨some (.redeem recordFailure recordValue), #[.map answerKept, .bind answerRecorded]⟩,
      .crossed 1 (.completed (.datum .null)), .looked (.tracked 0) false,
      .called (.continuing recordValue (.datum .null)) (.tracked 0),
      .answered (.plan (.pure (.attempt (.ok (.datum .null))))), .looked (.tracked 0) false,
      .called (.continuing answerRecorded (.attempt (.ok (.datum .null)))) (.tracked 0),
      .answered (.plan (.pure (.datum .null))), .looked (.tracked 0) false,
      .called (.mapping answerKept (.datum .null)) (.tracked 0),
      .answered (.value (.datum .null)), .looked (.tracked 0) false,
      .told (.completed (.datum .null))] := by
  cbv

def likenessUnwrapped : Likeness Unit :=
  .among (· ∈ [.registering registerAtOnce, .continuing startAtOnce, .mapping answerKept])

theorem plans_registering_atOnce : (Variation.neutral likenessUnwrapped true).Plans
    (.async (.calling registerAtOnce)) (.async (.calling registerAtOnce)) :=
  .of_heads (.async (.calling ⟨rfl, by simp⟩) .nil)

theorem plans_unwrapped :
    (Variation.neutral likenessUnwrapped true).Plans .unwrapped .wrapped := by
  have given : (Variation.neutral likenessUnwrapped true).Plans
      (.bind (.pure (.datum .null)) startAtOnce) (.suspend fun _ => startAtOnce (.datum .null)) :=
    .started (.inl rfl) .datum ⟨rfl, by simp⟩
  have wraps : (Variation.neutral likenessUnwrapped true).laws .wrapping := .inr ⟨rfl, rfl⟩
  exact .sequencing rfl rfl (.map ⟨rfl, by simp⟩) (.wrapped wraps given .attempt)

theorem determined_unwrapped : (Variation.neutral likenessUnwrapped true).Determined := by
  intro call call' calls happening happening' replied replied'
  cases calls with
  | continuing functions values =>
      obtain ⟨same, member⟩ := functions
      obtain rfl : _ = startAtOnce := by simpa using member
      cases same
      rw [replied.eq_answered rfl, replied'.eq_answered rfl]
      exact .answered (.plan plans_registering_atOnce)
  | mapping functions values =>
      obtain ⟨same, member⟩ := functions
      obtain rfl : _ = answerKept := by simpa using member
      cases same
      rw [replied.eq_answered rfl, replied'.eq_answered rfl]
      exact .answered (.value values)
  | suspended functions | delayed functions | naming functions | handling functions
  | switching functions | restoring functions =>
      simp [Variation.neutral, likenessUnwrapped, Likeness.among] at functions

def RunsLive : List (Happening Unit) → Prop
  | .looked _ found :: _ => found = false
  | .recalled _ _ :: _ => False
  | _ => True

theorem throughout_unwrapped :
    Throughout (fun _ => RunsLive) [] (course 0 (Chronicle.underToken .unwrapped).history) := by
  rw [course_unwrapped]
  simp [Throughout, RunsLive]

theorem throughout_wrapped :
    Throughout (fun _ => RunsLive) [] (course 0 (Chronicle.underToken .wrapped).history) := by
  rw [course_wrapped]
  simp [Throughout, RunsLive]

theorem concord_wrapped : (Variation.neutral likenessUnwrapped true).Concord
    (course 0 (Chronicle.underToken .unwrapped).history)
    (course 0 (Chronicle.underToken .wrapped).history) where
  looked front rest front' rest' token found found' split split' same := by
    have here : RunsLive _ := (split ▸ throughout_unwrapped).of_append
    have here' : RunsLive _ := (split' ▸ throughout_wrapped).of_append
    exact Eq.trans here (Eq.symm here')
  recalled front rest front' rest' kept kept' plan plan' split :=
    (split ▸ throughout_unwrapped).of_append.elim

theorem rests_unwrapped : (Chronicle.underToken .unwrapped).pool.rests 0 = true := by
  cbv

theorem rests_wrapped : (Chronicle.underToken .wrapped).pool.rests 0 = true := by
  cbv

theorem alone_unwrapped : ((Chronicle.underToken .unwrapped).pool.host.runs.all
    fun entry => !entry.receiver.isForward) = true := by
  cbv

theorem reaches_unwrapped :
    (reaches (recordsOf 0 (Chronicle.underToken .unwrapped).history)).map Reach.epoch = [1] := by
  cbv

theorem reaches_wrapped :
    (reaches (recordsOf 0 (Chronicle.underToken .wrapped).history)).map Reach.epoch = [1] := by
  cbv

theorem completions_unwrapped :
    completions 1 (recordsOf 0 (Chronicle.underToken .unwrapped).history) =
      completions 1 (recordsOf 0 (Chronicle.underToken .wrapped).history) := by
  cbv

/-- A plan that is given by a thunk and attempted does what it does by itself. -/
theorem neutral_wrappers_do_the_same_attempted :
    (Chronicle.underToken .unwrapped).Reachable ∧ (Chronicle.underToken .wrapped).Reachable ∧
      (Variation.neutral likenessUnwrapped true).Determined ∧
      (Variation.neutral likenessUnwrapped true).Matches
        (deeds (course 0 (Chronicle.underToken .unwrapped).history))
        (deeds (course 0 (Chronicle.underToken .wrapped).history)) := by
  have reachable : (Chronicle.underToken .unwrapped).Reachable := ⟨_, _, _, rfl⟩
  have reachable' : (Chronicle.underToken .wrapped).Reachable := ⟨_, _, _, rfl⟩
  have completed := completions_eq_of_single reaches_unwrapped reaches_wrapped completions_unwrapped
  have concords : ∀ inner inner', Chronicle.Paired (.underToken .unwrapped) (.underToken .wrapped)
      0 0 inner inner' → (Chronicle.underToken .unwrapped).Concords (.underToken .wrapped)
        (.neutral likenessUnwrapped true) inner inner' := by
    intro inner inner' paired
    obtain ⟨rfl, rfl⟩ := paired.eq_of_alone alone_unwrapped
    refine ⟨concord_wrapped, .inl determined_unwrapped, ?_,
      fun _ token => by rw [course_wrapped]; simp⟩
    intro epoch outcome outcome' maker maker' first first'
    rw [completed epoch] at first
    cases first.symm.trans first'
    exact .inr (.refl outcome)
  have all := neutral_wrappers_do_the_same likenessUnwrapped true (.underToken .unwrapped)
    (.underToken .wrapped) reachable reachable' 0 0 .unwrapped .wrapped plans_unwrapped
    (.tracked 0) (.code fun _ => Code.unit) (.code fun _ => Code.unit)
    (by rw [course_unwrapped]; rfl) (by rw [course_wrapped]; rfl) concords
  refine ⟨reachable, reachable', determined_unwrapped,
    (all.2.2 0 0 .self).2 rests_unwrapped rests_wrapped ?_⟩
  intro epoch
  rw [completed epoch]

end Attempting

section Asking

theorem courses_wrapping :
    course 0 (Chronicle.underToken .askingInstalled).history =
        [.started .askingInstalled {} (.tracked 0) (.code fun _ => Code.unit),
          .looked (.tracked 0) false, .looked (.tracked 0) false,
          .called (.delayed askInstalled) (.tracked 0), .answered (.value (.datum (.bool false))),
          .called (.mapping changeNothing (.datum (.bool false))) (.tracked 0),
          .answered (.value (.datum (.bool false))), .looked (.tracked 0) false,
          .told (.completed (.datum (.bool false)))] ∧
      course 0 (Chronicle.underToken (Wrapper.mapSame.wrap .askingInstalled)).history =
        [.started (Wrapper.mapSame.wrap .askingInstalled) {} (.tracked 0)
            (.code fun _ => Code.unit),
          .looked (.tracked 0) false, .looked (.tracked 0) false, .looked (.tracked 0) false,
          .called (.delayed askInstalled) (.tracked 0), .answered (.value (.datum (.bool true))),
          .called (.mapping changeNothing (.datum (.bool true))) (.tracked 0),
          .answered (.value (.datum (.bool true))), .looked (.tracked 0) false,
          .called (.mapping answerSame (.datum (.bool true))) (.tracked 0),
          .answered (.value (.datum (.bool true))), .looked (.tracked 0) false,
          .told (.completed (.datum (.bool true)))] := by
  constructor <;> cbv

/-- A neutral wrapper shows to a thunk that asks whether settings are fixed: its frame is the second
one that is pending, which reads settings. -/
theorem wrapping_shows_in_settings :
    (Chronicle.underToken .askingInstalled).Reachable ∧
      (Chronicle.underToken (Wrapper.mapSame.wrap .askingInstalled)).Reachable ∧
      (course 0 (Chronicle.underToken .askingInstalled).history).head? =
        some (.started .askingInstalled {} (.tracked 0) (.code fun _ => Code.unit)) ∧
      (course 0 (Chronicle.underToken (Wrapper.mapSame.wrap .askingInstalled)).history).head? =
        some (.started (Wrapper.mapSame.wrap .askingInstalled) {} (.tracked 0)
          (.code fun _ => Code.unit)) ∧
      (∀ token, .looked token true ∉
        course 0 (Chronicle.underToken (Wrapper.mapSame.wrap .askingInstalled)).history) ∧
      .told (.completed (.datum (.bool false))) ∈
        course 0 (Chronicle.underToken .askingInstalled).history ∧
      .told (.completed (.datum (.bool true))) ∈
        course 0 (Chronicle.underToken (Wrapper.mapSame.wrap .askingInstalled)).history := by
  rw [courses_wrapping.1, courses_wrapping.2]
  refine ⟨⟨_, _, _, rfl⟩, ⟨_, _, _, rfl⟩, rfl, rfl, ?_, ?_, ?_⟩
  · simp
  · simp
  · simp

end Asking

end Trampoline
