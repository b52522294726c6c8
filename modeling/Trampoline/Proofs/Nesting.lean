import Trampoline.Proofs.Reachable

/-!
Nested runs and the boundaries that they are for.

A boundary that hops, or that finishes what stepping has left, is reached together with a nested run
that is due.  A nested run starts at most once, and an outcome that completes a boundary on behalf
of a run is the one that the nested run for that boundary has told.
-/

namespace Trampoline

variable {Memory : Type} {history more : List (Record Memory)} {situation after : Situation Memory}

def Due.Asked (history : List (Record Memory)) (due : Due Memory) : Prop :=
  ∃ registration token pending,
    .reached due.completer.epoch registration token pending ∈ course due.completer.run history ∧
      due ∈ registration.due token due.completer

theorem Due.Asked.append {due : Due Memory} (asked : due.Asked history)
    (more : List (Record Memory)) : due.Asked (history ++ more) := by
  obtain ⟨registration, token, pending, reached, listed⟩ := asked
  refine ⟨registration, token, pending, ?_, listed⟩
  rw [course_append]
  exact List.mem_append_left _ reached

def Forwarded (history : List (Record Memory)) (runs : Array (Run Memory)) (completer : Completer)
    (outcome : Outcome Value) : Prop :=
  ∃ run, receiverOf runs run = some (.forward completer) ∧ .told outcome ∈ course run history

/-- Whether it starts no nested run and has no part in the completion of a boundary. -/
def Happening.isAside : Happening Memory → Bool
  | .started _ _ _ (.forward _) | .attempted _ _ _ | .crossed _ _ => false
  | _ => true

/-- Every nested run is for a boundary of an earlier run, and no two are for the same one. -/
structure Nesting (history : List (Record Memory)) (situation : Situation Memory) : Prop where
  due : ∀ due ∈ situation.due, due.Asked history
  distinct : (situation.due.map Due.completer).Nodup
  fresh : ∀ due ∈ situation.due, ∀ run,
    receiverOf situation.runs run ≠ some (.forward due.completer)
  started : ∀ run plan pending token completer,
    .started plan pending token (.forward completer) ∈ course run history →
      completer.run < run ∧ Due.Asked history ⟨plan, pending, token, completer⟩
  unique : ∀ run other completer, receiverOf situation.runs run = some (.forward completer) →
    receiverOf situation.runs other = some (.forward completer) → run = other
  telling : ∀ pair ∈ situation.telling, Forwarded history situation.runs pair.1 pair.2
  attempted : ∀ run epoch outcome, (∃ thread,
      Record.mk run thread (.attempted epoch outcome .run) ∈ history) →
    Forwarded history situation.runs ⟨run, epoch⟩ outcome
  crossed : ∀ run epoch outcome, .crossed epoch outcome ∈ course run history →
    ∃ thread maker, Record.mk run thread (.attempted epoch outcome maker) ∈ history

theorem mem_course_append {run thread : Nat} {happening : Happening Memory}
    {happenings : List (Nat × Happening Memory)}
    (member : happening ∈ course run (history ++ recorded thread happenings)) :
    happening ∈ course run history ∨ (run, happening) ∈ happenings := by
  rw [course_append, List.mem_append] at member
  rcases member with earlier | now
  · exact .inl earlier
  · right
    obtain ⟨record, recordedNow, shown⟩ := List.mem_filterMap.1 now
    obtain ⟨⟨other, noted⟩, listed, rfl⟩ := List.mem_map.1 recordedNow
    dsimp only at shown
    split at shown
    · rename_i both
      cases shown
      obtain ⟨rfl, _⟩ := both
      exact listed
    · cases shown

def KeepsReceivers (runs after : Array (Run Memory)) : Prop :=
  ∀ run receiver, receiverOf runs run = some receiver → receiverOf after run = some receiver

theorem receiverOf_push {runs : Array (Run Memory)} {entry : Run Memory} {run : Nat}
    {receiver : Receiver Memory} (found : receiverOf (runs.push entry) run = some receiver) :
    (run = runs.size ∧ receiver = entry.receiver) ∨ receiverOf runs run = some receiver := by
  rw [receiverOf, Array.getElem?_push] at found
  split at found
  · rename_i same
    cases found
    exact .inl ⟨same, rfl⟩
  · exact .inr found

theorem keepsReceivers_push {runs : Array (Run Memory)} {entry : Run Memory} :
    KeepsReceivers runs (runs.push entry) := by
  intro run receiver found
  rw [receiverOf, Array.getElem?_push]
  split
  · rename_i same
    simp [receiverOf, same] at found
  · exact found

theorem Forwarded.append {runs later : Array (Run Memory)} {completer : Completer}
    {outcome : Outcome Value} (forwarded : Forwarded history runs completer outcome)
    (keeps : KeepsReceivers runs later) (more : List (Record Memory)) :
    Forwarded (history ++ more) later completer outcome := by
  obtain ⟨run, receiver, told⟩ := forwarded
  refine ⟨run, keeps run _ receiver, ?_⟩
  rw [course_append]
  exact List.mem_append_left _ told

theorem exists_reach {run epoch : Nat} {registration : Registration Memory} {token : Token}
    {pending : Stack (Frame Memory)}
    (reached : .reached epoch registration token pending ∈ course run history) :
    ∃ thread, ⟨epoch, registration, token, pending, thread⟩ ∈ reaches (recordsOf run history) := by
  obtain ⟨⟨other, thread, happening⟩, member, shown⟩ := List.mem_filterMap.1 reached
  dsimp only at shown
  split at shown
  · rename_i both
    cases shown
    obtain ⟨rfl, _⟩ := both
    refine ⟨thread, ?_⟩
    exact List.mem_filterMap.2 ⟨_, List.mem_filter.2 ⟨member, decide_eq_true rfl⟩, rfl⟩
  · cases shown

theorem Ledger.reached_eq (ledger : Ledger history situation) {run epoch : Nat}
    {registration other : Registration Memory} {token current : Token}
    {pending saved : Stack (Frame Memory)}
    (reached : .reached epoch registration token pending ∈ course run history)
    (again : .reached epoch other current saved ∈ course run history) :
    registration = other ∧ token = current := by
  obtain ⟨thread, member⟩ := exists_reach reached
  obtain ⟨worker, member'⟩ := exists_reach again
  cases (ledger run).eq_of_epoch_eq member member' rfl
  exact ⟨rfl, rfl⟩

namespace Tracked

theorem lt_size_of_mem (tracked : Tracked history situation) {run : Nat}
    {happening : Happening Memory} (member : happening ∈ course run history) :
    run < situation.runs.size := by
  have accounts := tracked run
  rcases Nat.lt_or_ge run situation.runs.size with inside | outside
  · exact inside
  · rw [receiverOf, Array.getElem?_eq_none outside] at accounts
    rw [accounts.eq_nil.1] at member
    cases member

theorem started_of_receiver (tracked : Tracked history situation) {run : Nat}
    {receiver : Receiver Memory} (known : receiverOf situation.runs run = some receiver) :
    ∃ plan pending token rest,
      course run history = .started plan pending token receiver :: rest ∧
        .started plan pending token receiver ∈ course run history := by
  have accounts := tracked run
  rw [known] at accounts
  generalize course run history = done at accounts ⊢
  generalize situation.standings run = standings at accounts
  cases accounts with
  | born leads => exact ⟨_, _, _, _, rfl, .head _⟩

end Tracked

namespace Registration

variable {registration : Registration Memory} {token : Token} {completer : Completer}

theorem completer_of_due {due : Due Memory} (asked : due ∈ registration.due token completer) :
    due.completer = completer := by
  cases registration with
  | calling register => cases asked
  | hopping source context =>
      cases List.mem_singleton.1 asked
      rfl
  | finishing head pending =>
      cases List.mem_singleton.1 asked
      rfl

theorem nodup_due : ((registration.due token completer).map Due.completer).Nodup := by
  cases registration <;> simp [due]

end Registration

namespace Nesting

variable {thread : Nat} {happenings : List (Nat × Happening Memory)}

theorem extend (nesting : Nesting history situation)
    (due : ∀ due ∈ after.due, due.Asked (history ++ recorded thread happenings))
    (distinct : (after.due.map Due.completer).Nodup)
    (fresh : ∀ due ∈ after.due, ∀ run, receiverOf after.runs run ≠ some (.forward due.completer))
    (keeps : KeepsReceivers situation.runs after.runs)
    (known : ∀ run completer, receiverOf after.runs run = some (.forward completer) →
      receiverOf situation.runs run = some (.forward completer))
    (startless : ∀ run plan pending token completer,
      (run, .started plan pending token (.forward completer)) ∉ happenings)
    (telling : ∀ pair ∈ after.telling, pair ∈ situation.telling ∨
      Forwarded (history ++ recorded thread happenings) after.runs pair.1 pair.2)
    (attempted : ∀ run epoch outcome, (run, .attempted epoch outcome .run) ∈ happenings →
      (⟨run, epoch⟩, outcome) ∈ situation.telling)
    (crossed : ∀ run epoch outcome, (run, .crossed epoch outcome) ∈ happenings →
      ∃ maker, (run, .attempted epoch outcome maker) ∈ happenings) :
    Nesting (history ++ recorded thread happenings) after where
  due := due
  distinct := distinct
  fresh := fresh
  started := by
    intro run plan pending token completer member
    rcases mem_course_append member with earlier | now
    · obtain ⟨later, asked⟩ := nesting.started run plan pending token completer earlier
      exact ⟨later, asked.append _⟩
    · exact absurd now (startless run plan pending token completer)
  unique run other completer first second :=
    nesting.unique run other completer (known run completer first) (known other completer second)
  telling := by
    intro pair member
    rcases telling pair member with earlier | now
    · exact (nesting.telling pair earlier).append keeps _
    · exact now
  attempted := by
    rintro run epoch outcome ⟨maker, member⟩
    rcases List.mem_append.1 member with earlier | now
    · exact (nesting.attempted run epoch outcome ⟨maker, earlier⟩).append keeps _
    · obtain ⟨⟨other, noted⟩, listed, same⟩ := List.mem_map.1 now
      cases same
      exact (nesting.telling _ (attempted run epoch outcome listed)).append keeps _
  crossed := by
    intro run epoch outcome member
    rcases mem_course_append member with earlier | now
    · obtain ⟨worker, maker, tried⟩ := nesting.crossed run epoch outcome earlier
      exact ⟨worker, maker, List.mem_append_left _ tried⟩
    · obtain ⟨maker, tried⟩ := crossed run epoch outcome now
      exact ⟨thread, maker, List.mem_append_right _ (List.mem_map.2 ⟨_, tried, rfl⟩)⟩

theorem stay (nesting : Nesting history situation) (sublist : after.due.Sublist situation.due)
    (receivers : ∀ run, receiverOf after.runs run = receiverOf situation.runs run)
    (startless : ∀ run plan pending token completer,
      (run, .started plan pending token (.forward completer)) ∉ happenings)
    (telling : ∀ pair ∈ after.telling, pair ∈ situation.telling)
    (attempted : ∀ run epoch outcome, (run, .attempted epoch outcome .run) ∈ happenings →
      (⟨run, epoch⟩, outcome) ∈ situation.telling)
    (crossed : ∀ run epoch outcome, (run, .crossed epoch outcome) ∈ happenings →
      ∃ maker, (run, .attempted epoch outcome maker) ∈ happenings) :
    Nesting (history ++ recorded thread happenings) after := by
  apply nesting.extend
  · intro due member
    exact (nesting.due due (sublist.subset member)).append _
  · exact nesting.distinct.sublist (sublist.map _)
  · intro due member run
    rw [receivers]
    exact nesting.fresh due (sublist.subset member) run
  · intro run receiver known
    rw [receivers]
    exact known
  · intro run completer known
    rw [← receivers]
    exact known
  · exact startless
  · intro pair member
    exact .inl (telling pair member)
  · exact attempted
  · exact crossed

theorem aside (nesting : Nesting history situation) (sublist : after.due.Sublist situation.due)
    (receivers : ∀ run, receiverOf after.runs run = receiverOf situation.runs run)
    (telling : after.telling = situation.telling)
    (aside : ∀ noted ∈ happenings, noted.2.isAside = true) :
    Nesting (history ++ recorded thread happenings) after := by
  apply nesting.stay sublist receivers
  · intro run plan pending token completer member
    cases aside _ member
  · intro pair member
    rwa [telling] at member
  · intro run epoch outcome member
    cases aside _ member
  · intro run epoch outcome member
    cases aside _ member

theorem attempt (nesting : Nesting history situation) {completer : Completer}
    {outcome : Outcome Value} {maker : Maker} {rest : List (Completer × Outcome Value)}
    (takes : maker.Takes completer outcome situation.telling rest)
    (due : after.due = situation.due) (telling : after.telling = rest)
    (receivers : ∀ run, receiverOf after.runs run = receiverOf situation.runs run)
    (crossings : List (Nat × Happening Memory))
    (accepted : crossings = [] ∨ crossings = [(completer.run, .crossed completer.epoch outcome)]) :
    Nesting (history ++ recorded thread
      ((completer.run, .attempted completer.epoch outcome maker) :: crossings)) after := by
  apply nesting.stay
  · exact due ▸ List.Sublist.refl _
  · exact receivers
  · intro run plan pending token forwarded member
    rcases accepted with rfl | rfl <;> simp at member
  · intro pair member
    rw [telling] at member
    cases maker with
    | run =>
        rw [show situation.telling = (completer, outcome) :: rest from takes]
        exact .tail _ member
    | code | registration =>
        rw [show situation.telling = rest from takes]
        exact member
  · intro run epoch tried member
    have same : run = completer.run ∧ epoch = completer.epoch ∧ tried = outcome ∧ maker = .run := by
      rcases accepted with rfl | rfl <;> simp at member <;> simp [member]
    obtain ⟨rfl, rfl, rfl, rfl⟩ := same
    rw [show situation.telling = (completer, tried) :: rest from takes]
    exact .head _
  · intro run epoch tried member
    have same : run = completer.run ∧ epoch = completer.epoch ∧ tried = outcome := by
      rcases accepted with rfl | rfl <;> simp at member
      simp [member]
    obtain ⟨rfl, rfl, rfl⟩ := same
    exact ⟨maker, .head _⟩

theorem epoch_le_of_asked (ledger : Ledger history situation) {due : Due Memory}
    (asked : due.Asked history) :
    due.completer.epoch ≤ epochs (boundaryOf situation.runs due.completer.run) := by
  obtain ⟨registration, token, pending, reached, _⟩ := asked
  obtain ⟨thread, member⟩ := exists_reach reached
  exact ((ledger due.completer.run).epoch_bounds member).2

theorem lt_size_of_asked (tracked : Tracked history situation) {due : Due Memory}
    (asked : due.Asked history) : due.completer.run < situation.runs.size := by
  obtain ⟨registration, token, pending, reached, _⟩ := asked
  exact tracked.lt_size_of_mem reached

theorem asked_of_receiver (nesting : Nesting history situation) (tracked : Tracked history situation)
    {run : Nat} {completer : Completer}
    (forwards : receiverOf situation.runs run = some (.forward completer)) :
    ∃ due : Due Memory, due.completer = completer ∧ due.Asked history := by
  obtain ⟨_, _, _, _, _, started⟩ := tracked.started_of_receiver forwards
  exact ⟨_, rfl, (nesting.started _ _ _ _ _ started).2⟩

theorem completer_ne_of_asked (ledger : Ledger history situation) {due : Due Memory}
    (asked : due.Asked history) {run epoch : Nat}
    (next : epoch = epochs (boundaryOf situation.runs run) + 1) :
    due.completer ≠ ⟨run, epoch⟩ := by
  intro same
  have bound := epoch_le_of_asked ledger asked
  rw [same] at bound
  dsimp only at bound
  omega

theorem reach (nesting : Nesting history situation) (tracked : Tracked history situation)
    (ledger : Ledger history situation) {run epoch : Nat} {registration : Registration Memory}
    {token : Token} {pending : Stack (Frame Memory)}
    (next : epoch = epochs (boundaryOf situation.runs run) + 1)
    (due : after.due = situation.due ++ registration.due token ⟨run, epoch⟩)
    (telling : after.telling = situation.telling)
    (receivers : ∀ other, receiverOf after.runs other = receiverOf situation.runs other) :
    Nesting (history ++ recorded thread
      [(run, .looked token false), (run, .reached epoch registration token pending)]) after := by
  apply nesting.extend
  · intro other member
    rw [due, List.mem_append] at member
    rcases member with earlier | now
    · exact (nesting.due other earlier).append _
    · have same := Registration.completer_of_due now
      refine ⟨registration, token, pending, ?_, ?_⟩
      · rw [same, course_append]
        exact List.mem_append_right _ (by simp [course, recorded, Happening.isStep])
      · rw [same]
        exact now
  · rw [due, List.map_append, List.nodup_append]
    refine ⟨nesting.distinct, Registration.nodup_due, ?_⟩
    intro completer earlier other now same
    obtain ⟨due, member, rfl⟩ := List.mem_map.1 earlier
    obtain ⟨later, asked, rfl⟩ := List.mem_map.1 now
    rw [Registration.completer_of_due asked] at same
    exact completer_ne_of_asked ledger (nesting.due due member) next same
  · intro other member run forwards
    rw [receivers] at forwards
    rw [due, List.mem_append] at member
    rcases member with earlier | now
    · exact nesting.fresh other earlier run forwards
    · rw [Registration.completer_of_due now] at forwards
      obtain ⟨due, same, asked⟩ := nesting.asked_of_receiver tracked forwards
      exact completer_ne_of_asked ledger asked next same
  · intro other receiver known
    rw [receivers]
    exact known
  · intro other completer known
    rw [← receivers]
    exact known
  · simp
  · intro pair member
    rw [telling] at member
    exact .inl member
  · simp
  · simp

theorem start (nesting : Nesting history situation) {plan : Plan Memory}
    {pending : Stack (Frame Memory)} {token : Token} {receiver : Receiver Memory}
    (direct : receiver.isForward = false) (due : after.due = situation.due)
    (telling : after.telling = situation.telling)
    (runs : after.runs = situation.runs.push { receiver }) :
    Nesting (history ++ recorded thread
      [(situation.runs.size, .started plan pending token receiver)]) after := by
  have known (other : Nat) (completer : Completer)
      (forwards : receiverOf after.runs other = some (.forward completer)) :
      receiverOf situation.runs other = some (.forward completer) := by
    rw [runs] at forwards
    rcases receiverOf_push forwards with ⟨_, same⟩ | earlier
    · rw [show receiver = .forward completer from same.symm] at direct
      cases direct
    · exact earlier
  apply nesting.extend
  · intro other member
    rw [due] at member
    exact (nesting.due other member).append _
  · rw [due]
    exact nesting.distinct
  · intro other member run forwards
    rw [due] at member
    exact nesting.fresh other member run (known run _ forwards)
  · rw [runs]
    exact keepsReceivers_push
  · exact known
  · intro other plan pending token completer member
    cases List.mem_singleton.1 member
    cases direct
  · intro pair member
    rw [telling] at member
    exact .inl member
  · simp
  · simp

theorem launch (nesting : Nesting history situation) (tracked : Tracked history situation)
    {nested : Due Memory} {before behind : List (Due Memory)}
    (due : situation.due = before ++ nested :: behind) (left : after.due = before ++ behind)
    (telling : after.telling = situation.telling)
    (runs : after.runs = situation.runs.push { receiver := .forward nested.completer }) :
    Nesting (history ++ recorded thread [(situation.runs.size,
      .started nested.plan nested.pending nested.token (.forward nested.completer))]) after := by
  have keeps : KeepsReceivers situation.runs after.runs := by
    rw [runs]
    exact keepsReceivers_push
  have receivers {run : Nat} {completer : Completer}
      (forwards : receiverOf after.runs run = some (.forward completer)) :
      (run = situation.runs.size ∧ completer = nested.completer) ∨
        receiverOf situation.runs run = some (.forward completer) := by
    rw [runs] at forwards
    rcases receiverOf_push forwards with ⟨here, same⟩ | earlier
    · cases same
      exact .inl ⟨here, rfl⟩
    · exact .inr earlier
  have sublist : after.due.Sublist situation.due := by
    rw [due, left]
    exact (List.sublist_cons_self _ _).append_left _
  have listed : nested ∈ situation.due := by
    rw [due]
    exact List.mem_append_right _ (.head _)
  have asked := nesting.due nested listed
  constructor
  · exact fun due member => (nesting.due due (sublist.subset member)).append _
  · exact nesting.distinct.sublist (sublist.map _)
  · intro other member run forwards
    rcases receivers forwards with ⟨_, same⟩ | earlier
    · have apart := nesting.distinct
      rw [due, (List.perm_middle.map Due.completer).nodup_iff, List.map_cons, List.nodup_cons]
        at apart
      rw [left] at member
      exact apart.1 (same ▸ List.mem_map_of_mem member)
    · exact nesting.fresh other (sublist.subset member) run earlier
  · intro run plan pending token completer member
    rcases mem_course_append member with earlier | now
    · obtain ⟨later, asked⟩ := nesting.started run plan pending token completer earlier
      exact ⟨later, asked.append _⟩
    · cases List.mem_singleton.1 now
      exact ⟨lt_size_of_asked tracked asked, asked.append _⟩
  · intro run other completer first second
    rcases receivers first with ⟨here, rfl⟩ | earlier
    · rcases receivers second with ⟨there, _⟩ | earlier
      · rw [here, there]
      · exact absurd earlier (nesting.fresh nested listed other)
    · rcases receivers second with ⟨_, rfl⟩ | later
      · exact absurd earlier (nesting.fresh nested listed run)
      · exact nesting.unique run other completer earlier later
  · intro pair member
    rw [telling] at member
    exact (nesting.telling pair member).append keeps _
  · rintro run epoch outcome ⟨worker, member⟩
    rcases List.mem_append.1 member with earlier | now
    · exact (nesting.attempted run epoch outcome ⟨worker, earlier⟩).append keeps _
    · simp [recorded] at now
  · intro run epoch outcome member
    rcases mem_course_append member with earlier | now
    · obtain ⟨worker, maker, tried⟩ := nesting.crossed run epoch outcome earlier
      exact ⟨worker, maker, List.mem_append_left _ tried⟩
    · simp at now

theorem tell (nesting : Nesting history situation) {run : Nat} {outcome : Outcome Value}
    {receiver : Receiver Memory} (found : receiverOf situation.runs run = some receiver)
    (due : after.due = situation.due)
    (telling : after.telling = receiver.telling outcome ++ situation.telling)
    (receivers : ∀ other, receiverOf after.runs other = receiverOf situation.runs other) :
    Nesting (history ++ recorded thread [(run, .told outcome)]) after := by
  apply nesting.extend
  · intro other member
    rw [due] at member
    exact (nesting.due other member).append _
  · rw [due]
    exact nesting.distinct
  · intro other member run
    rw [due] at member
    rw [receivers]
    exact nesting.fresh other member run
  · intro other receiver known
    rw [receivers]
    exact known
  · intro other completer known
    rw [← receivers]
    exact known
  · simp
  · intro pair member
    rw [telling, List.mem_append] at member
    rcases member with now | earlier
    · cases receiver with
      | forward completer =>
          right
          cases List.mem_singleton.1 now
          refine ⟨run, ?_, ?_⟩
          · rw [receivers]
            exact found
          · rw [course_append]
            exact List.mem_append_right _ (by simp [course, recorded, Happening.isStep])
      | code | nobody => cases now
    · exact .inl earlier
  · simp
  · simp

theorem invariant : Invariant (Nesting : List (Record Memory) → Situation Memory → Prop) where
  similar := by
    intro history situation other nesting same
    constructor
    · rw [← same.due]
      exact nesting.due
    · rw [← same.due]
      exact nesting.distinct
    · rw [← same.due, ← same.runs]
      exact nesting.fresh
    · exact nesting.started
    · rw [← same.runs]
      exact nesting.unique
    · intro pair member
      rw [← same.runs]
      exact nesting.telling pair (same.telling.mem_iff.2 member)
    · rw [← same.runs]
      exact nesting.attempted
    · exact nesting.crossed
  effect := by
    intro history situation thread happenings after tracked ledger nesting effect
    cases effect with
    | loop leads inner retokened =>
        refine nesting.aside ?_ ?_ rfl ?_
        · exact .refl _
        · exact (OnlyChanges.of_retokened retokened).receiverOf_eq
        · intro noted member
          obtain ⟨happening, listed, rfl⟩ := List.mem_map.1 member
          have isInner := List.all_eq_true.1 inner happening listed
          cases happening <;> first | rfl | cases isInner
    | @reach run registration pending token boundary loops openings due telling runs _ armed =>
        have next : boundary.epoch = epochs (boundaryOf runs run) + 1 := by
          rw [armed, Boundary.epoch_arm]
          cases boundaryOf runs run <;> rfl
        exact nesting.reach tracked ledger next rfl rfl (OnlyChanges.receiverOf_eq .withBoundary)
    | start direct => exact nesting.start direct rfl rfl rfl
    | launch => exact nesting.launch tracked rfl rfl rfl rfl
    | lose =>
        refine nesting.aside ?_ ?_ rfl ?_
        · exact (List.sublist_cons_self _ _).append_left _
        · exact fun _ => rfl
        · simp
    | ignore refused takes =>
        refine nesting.attempt takes ?_ ?_ ?_ [] (.inl rfl)
        · rfl
        · rfl
        · exact fun _ => rfl
    | park found accepted takes | resume found accepted takes =>
        refine nesting.attempt takes ?_ ?_ ?_ [_] (.inr rfl)
        · rfl
        · rfl
        · exact OnlyChanges.receiverOf_eq .withBoundary
    | wait | takeUp =>
        refine nesting.aside (.refl _) ?_ rfl ?_
        · exact OnlyChanges.receiverOf_eq .withBoundary
        · intro noted member
          cases List.mem_singleton.1 member
          rfl
    | tell found untold =>
        refine nesting.tell ?_ rfl rfl ?_
        · exact congrArg (Option.map Run.receiver) found
        · exact OnlyChanges.receiverOf_eq .withOutcome

theorem of_nothing : Nesting [] (⟨[], [], [], [], #[], []⟩ : Situation Memory) where
  due _ member := nomatch member
  distinct := List.nodup_nil
  fresh _ member := nomatch member
  started _ _ _ _ _ member := nomatch member
  unique _ _ _ first := nomatch first
  telling _ member := nomatch member
  attempted _ _ _ tried := nomatch tried.choose_spec
  crossed _ _ _ member := nomatch member

end Nesting

end Trampoline
