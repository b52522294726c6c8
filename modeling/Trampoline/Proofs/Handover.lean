import Trampoline.Proofs.Timing

/-!
What a nested run tells gets to the boundary that the run is for.

Between telling an outcome and completing the boundary of another run with it, the outcome is on its
way.  Nothing takes it away but an attempt on that boundary, and an attempt is refused only if the
boundary has been crossed already.  So a run does not go on waiting for a nested run that has ended.
-/

namespace Trampoline

variable {Memory : Type} {history : List (Record Memory)} {situation after : Situation Memory}

/-- What a nested run has told is on its way to the boundary that the run is for, or that has been
crossed. -/
def HandsOver (history : List (Record Memory)) (situation : Situation Memory) : Prop :=
  ∀ nested completer outcome, receiverOf situation.runs nested = some (.forward completer) →
    .told outcome ∈ course nested history →
      (completer, outcome) ∈ situation.telling ∨
        ∃ other, .crossed completer.epoch other ∈ course completer.run history

/-- An attempt on a boundary that was reached is refused only if the boundary has been crossed. -/
theorem Ledger.crossed_of_refused (ledger : Ledger history situation) {run epoch : Nat}
    {registration : Registration Memory} {token : Token} {pending : Stack (Frame Memory)}
    (reached : .reached epoch registration token pending ∈ course run history)
    (refused : (boundaryOf situation.runs run).all fun boundary =>
      !(decide (boundary.epoch = epoch) && boundary.isArmed)) :
    ∃ outcome, .crossed epoch outcome ∈ course run history := by
  obtain ⟨thread, member⟩ := exists_reach reached
  have attempted := (ledger run).attempted_of_refused ⟨_, member, rfl⟩ refused
  have first := (ledger run).first epoch
  cases tried : attempts epoch (recordsOf run history) with
  | nil => exact absurd tried attempted
  | cons attempt rest =>
      rw [tried] at first
      refine ⟨attempt.outcome, mem_crossings_iff.1 ?_⟩
      rw [first]
      exact .head _

namespace HandsOver

variable {thread : Nat} {happenings : List (Nat × Happening Memory)}
  (hands : HandsOver history situation)
include hands

theorem carry
    (receivers : ∀ nested completer, receiverOf after.runs nested = some (.forward completer) →
      receiverOf situation.runs nested = some (.forward completer) ∨
        ∀ outcome, .told outcome ∉ course nested (history ++ recorded thread happenings))
    (told : ∀ nested completer outcome, (nested, .told outcome) ∈ happenings →
      receiverOf after.runs nested = some (.forward completer) →
        (completer, outcome) ∈ after.telling)
    (telling : ∀ pair ∈ situation.telling, pair ∈ after.telling ∨
      ∃ other, .crossed pair.1.epoch other ∈
        course pair.1.run (history ++ recorded thread happenings)) :
    HandsOver (history ++ recorded thread happenings) after := by
  intro nested completer outcome forwards member
  rcases receivers nested completer forwards with known | untold
  · rcases mem_course_append member with before | now
    · rcases hands nested completer outcome known before with pair | ⟨other, crossed⟩
      · exact telling _ pair
      · refine .inr ⟨other, ?_⟩
        rw [course_append]
        exact List.mem_append_left _ crossed
    · exact .inl (told nested completer outcome now forwards)
  · exact absurd member (untold outcome)

theorem aside (receivers : ∀ run, receiverOf after.runs run = receiverOf situation.runs run)
    (telling : after.telling = situation.telling)
    (untold : ∀ noted ∈ happenings, ∀ outcome, noted.2 ≠ .told outcome) :
    HandsOver (history ++ recorded thread happenings) after := by
  apply hands.carry
  · intro nested completer forwards
    rw [receivers] at forwards
    exact .inl forwards
  · intro nested completer outcome member
    exact absurd rfl (untold _ member outcome)
  · intro pair member
    rw [telling]
    exact .inl member

theorem attempt {completer : Completer} {outcome : Outcome Value} {maker : Maker}
    {rest : List (Completer × Outcome Value)}
    (takes : maker.Takes completer outcome situation.telling rest) (telling : after.telling = rest)
    (receivers : ∀ run, receiverOf after.runs run = receiverOf situation.runs run)
    (untold : ∀ noted ∈ happenings, ∀ outcome, noted.2 ≠ .told outcome)
    (crossed : maker = .run → ∃ other,
      .crossed completer.epoch other ∈ course completer.run (history ++ recorded thread happenings)) :
    HandsOver (history ++ recorded thread happenings) after := by
  apply hands.carry
  · intro nested forwarded forwards
    rw [receivers] at forwards
    exact .inl forwards
  · intro nested forwarded other member
    exact absurd rfl (untold _ member other)
  · intro pair member
    rw [telling]
    cases maker with
    | run =>
        rw [show situation.telling = (completer, outcome) :: rest from takes] at member
        rcases List.mem_cons.1 member with rfl | later
        · exact .inr (crossed rfl)
        · exact .inl later
    | code | registration =>
        rw [show situation.telling = rest from takes] at member
        exact .inl member

theorem start (tracked : Tracked history situation) {plan : Plan Memory}
    {pending : Stack (Frame Memory)} {token : Token} {receiver : Receiver Memory}
    (telling : after.telling = situation.telling)
    (runs : after.runs = situation.runs.push { receiver }) :
    HandsOver (history ++ recorded thread
      [(situation.runs.size, .started plan pending token receiver)]) after := by
  apply hands.carry
  · intro nested completer forwards
    rw [runs] at forwards
    rcases receiverOf_push forwards with ⟨rfl, _⟩ | known
    · right
      intro outcome member
      rcases mem_course_append member with before | now
      · exact absurd (tracked.lt_size_of_mem before) (Nat.lt_irrefl _)
      · simp at now
    · exact .inl known
  · simp
  · intro pair member
    rw [telling]
    exact .inl member

theorem tell {run : Nat} {outcome : Outcome Value} {receiver : Receiver Memory}
    (found : receiverOf situation.runs run = some receiver)
    (telling : after.telling = receiver.telling outcome ++ situation.telling)
    (receivers : ∀ other, receiverOf after.runs other = receiverOf situation.runs other) :
    HandsOver (history ++ recorded thread [(run, .told outcome)]) after := by
  apply hands.carry
  · intro nested completer forwards
    rw [receivers] at forwards
    exact .inl forwards
  · intro nested completer other member forwards
    cases List.mem_singleton.1 member
    rw [receivers, found] at forwards
    cases forwards
    rw [telling]
    exact .head _
  · intro pair member
    rw [telling]
    exact .inl (List.mem_append_right _ member)

end HandsOver

theorem HandsOver.invariant : Invariant fun (history : List (Record Memory)) situation =>
    Nesting history situation ∧ HandsOver history situation where
  similar := by
    rintro history situation other ⟨nesting, hands⟩ same
    refine ⟨Nesting.invariant.similar nesting same, ?_⟩
    intro nested completer outcome forwards told
    rw [← same.runs] at forwards
    exact (hands nested completer outcome forwards told).imp_left same.telling.mem_iff.1
  effect := by
    rintro history situation thread happenings after tracked ledger ⟨nesting, hands⟩ effect
    refine ⟨Nesting.invariant.effect tracked ledger nesting effect, ?_⟩
    cases effect with
    | loop leads inner retokened =>
        refine hands.aside (OnlyChanges.of_retokened retokened).receiverOf_eq rfl ?_
        rintro noted member outcome told
        obtain ⟨happening, listed, rfl⟩ := List.mem_map.1 member
        have isInner := List.all_eq_true.1 inner happening listed
        dsimp only at told
        subst told
        cases isInner
    | reach armed =>
        refine hands.aside (OnlyChanges.receiverOf_eq .withBoundary) rfl ?_
        simp
    | start direct => exact hands.start tracked rfl rfl
    | launch => exact hands.start tracked rfl rfl
    | lose => exact hands.aside (fun _ => rfl) rfl (by simp)
    | @ignore completer outcome maker loops openings due telling rest runs warnings refused takes =>
        refine hands.attempt takes ?_ ?_ ?_ ?_
        · rfl
        · exact fun _ => rfl
        · simp
        · rintro rfl
          have listed : (completer, outcome) ∈ telling := by
            rw [show telling = (completer, outcome) :: rest from takes]
            exact .head _
          obtain ⟨nested, forwards, _⟩ := nesting.telling _ listed
          obtain ⟨due, rfl, registration, token, pending, reached, _⟩ :=
            nesting.asked_of_receiver tracked forwards
          obtain ⟨other, crossed⟩ := ledger.crossed_of_refused reached refused
          refine ⟨other, ?_⟩
          rw [course_append]
          exact List.mem_append_left _ crossed
    | @park completer outcome | @resume completer outcome =>
        rename_i found accepted takes
        refine hands.attempt takes ?_ ?_ ?_ ?_
        · rfl
        · exact OnlyChanges.receiverOf_eq .withBoundary
        · simp
        · intro _
          refine ⟨outcome, ?_⟩
          rw [course_append]
          exact List.mem_append_right _ (by simp [course, recorded, Happening.isStep])
    | wait | takeUp =>
        refine hands.aside (OnlyChanges.receiverOf_eq .withBoundary) rfl ?_
        simp
    | tell found untold =>
        refine hands.tell (congrArg (Option.map Run.receiver) found) rfl ?_
        exact OnlyChanges.receiverOf_eq .withOutcome

namespace Chronicle

/-- Nothing is done for a run or for those nested in it, and no outcome is on its way to one. -/
structure AtRest (chronicle : Chronicle Memory) (run : Nat) : Prop where
  rests : ∀ inner, chronicle.Nests run inner → chronicle.pool.rests inner = true
  silent : ∀ pair ∈ chronicle.pool.situation.telling, ¬ chronicle.Nests run pair.1.run

def awaited? (chronicle : Chronicle Memory) (run : Nat) : Option Nat :=
  (reaches (recordsOf run chronicle.history)).getLast?.bind fun reach =>
    nestedRun? chronicle.pool.host.runs ⟨run, reach.epoch⟩

/-- A run waits at its last boundary, and a nested run for that waits as well. -/
inductive Parked (chronicle : Chronicle Memory) : Nat → Prop where
  | outside {run} (resumable : chronicle.Resumable run) (alone : chronicle.awaited? run = none) :
      Parked chronicle run
  | nested {run nested} (resumable : chronicle.Resumable run)
      (awaited : chronicle.awaited? run = some nested) (parked : Parked chronicle nested) :
      Parked chronicle run

variable {chronicle : Chronicle Memory} {run : Nat}

theorem AtRest.inner (atRest : chronicle.AtRest run) {nested epoch : Nat}
    (forwards : receiverOf chronicle.pool.host.runs nested = some (.forward ⟨run, epoch⟩)) :
    chronicle.AtRest nested where
  rests inner nests := atRest.rests inner (.inner forwards nests)
  silent pair member nests := atRest.silent pair member (.inner forwards nests)

namespace Reachable

theorem handsOver (reachable : chronicle.Reachable) :
    HandsOver chronicle.history chronicle.pool.situation := by
  obtain ⟨memory, codes, schedule, rfl⟩ := reachable
  refine (HandsOver.invariant.chronicle memory codes ?_ schedule).kept.kept.2
  rw [Pool.situation_opening]
  refine ⟨.of_nothing, ?_⟩
  intro nested completer outcome forwards
  cases forwards

theorem not_resumable_of_crossed (reachable : chronicle.Reachable) {reach : Reach Memory}
    (last : (reaches (recordsOf run chronicle.history)).getLast? = some reach)
    {outcome : Outcome Value} (crossed : .crossed reach.epoch outcome ∈ course run chronicle.history) :
    ¬ chronicle.Resumable run := by
  rintro ⟨_, other, last', waits⟩
  rw [last] at last'
  cases last'
  have account := reachable.holds.ledger run
  obtain ⟨untried, _⟩ := account.fits _ waits
  have first := account.first reach.epoch
  rw [untried] at first
  have listed := mem_crossings_iff.2 crossed
  rw [first] at listed
  cases listed

theorem told_or_parked (reachable : chronicle.Reachable) (atRest : chronicle.AtRest run)
    {plan : Plan Memory} {pending : Stack (Frame Memory)} {token : Token} {receiver : Receiver Memory}
    (started : (course run chronicle.history).head? = some (.started plan pending token receiver)) :
    (∃ outcome, .told outcome ∈ course run chronicle.history) ∨ chronicle.Parked run := by
  induction left : chronicle.pool.host.runs.size - run using Nat.strongRecOn
    generalizing run plan pending token receiver with
  | ind total inductionHypothesis =>
      rcases reachable.told_or_resumable started (atRest.rests run .self) with told | resumable
      · exact .inl told
      · right
        cases awaited : chronicle.awaited? run with
        | none => exact .outside resumable awaited
        | some nested =>
            obtain ⟨reach, last, found⟩ := Option.bind_eq_some_iff.1 awaited
            have forwards := receiverOf_of_nestedRun? found
            obtain ⟨source, frames, current, rest, listed, begun⟩ :=
              reachable.holds.tracked.started_of_receiver forwards
            have later : run < nested := (reachable.holds.kept.started _ _ _ _ _ begun).1
            have bound := reachable.holds.tracked.lt_size_of_mem begun
            have within : nested < chronicle.pool.host.runs.size := bound
            have shrinks : chronicle.pool.host.runs.size - nested < total := by omega
            rcases inductionHypothesis _ shrinks (atRest.inner forwards) (by rw [listed]; rfl) rfl with
              ⟨outcome, told⟩ | parked
            · rcases reachable.handsOver nested _ outcome forwards told with pair | ⟨other, crossed⟩
              · exact absurd .self (atRest.silent _ pair)
              · exact absurd resumable (reachable.not_resumable_of_crossed last crossed)
            · exact .nested resumable awaited parked

end Reachable

end Chronicle

end Trampoline
