import Trampoline.Proofs.Overtaking
import Trampoline.Proofs.Move.Bounds
import Trampoline.Proofs.Segment

/-!
The branches for broken invariants are never taken.

An iteration may find no plan, a result may meet a frame that does not take it, an ended run may be
told another outcome, and a registration may return to a parked boundary without an outcome: for each
there is a branch, and none of them is reached as long as completions are made one at a time.  So a
failure that somebody is given is one that a program has come up with, or a panic.  Where completions
race, what the word says is parked is found, unless one of them overtakes another.
-/

namespace Trampoline

variable {Memory : Type} {last form : Form}

theorem Loop.feed_of_frame {loop : Loop Memory form} {result : Result} {frame : Frame Memory}
    {below : Stack (Frame Memory)} (callers : Callers Memory last form) (host : Host Memory)
    (found : frameFor loop.pending result = (some frame, below)) :
    ∃ call caller, frame.call? result loop.token = some call ∧
      loop.feed result callers host = Machine.call call.code caller callers host := by
  obtain ⟨purpose, pending, token⟩ := loop
  have takes := Standing.leads_frameFor pending result token
  rw [found] at takes
  obtain ⟨call, called, _⟩ := takes
  simp only [feed, found]
  cases frame <;> cases result <;> cases called <;> exact ⟨_, _, rfl, rfl⟩

/-- No branch for a broken invariant is taken in the next move of any worker. -/
structure Chronicle.Faultless (chronicle : Chronicle Memory) : Prop where
  /-- An iteration, of a run or of stepping, finds its plan in the slot and goes through a turn of
  which no way leads to a fault and each that goes on fills the slot. -/
  iterated : ∀ worker ∈ chronicle.pool.workers, ∀ {form : Form} (loop : Loop Memory form) plan
    callers, worker.focus = .iterate loop plan callers →
      let machine := worker.machine chronicle.pool.host
      let segment : Segment Memory := ⟨some plan, loop.pending, loop.token⟩
      (segment.turn machine.host loop.purpose).Sound ∧
        (segment.turn machine.host loop.purpose).Plays loop.purpose callers machine.next
  /-- A value meets no handler, and a failure no value continuation. -/
  met : ∀ worker ∈ chronicle.pool.workers, ∀ {form : Form} (loop : Loop Memory form) result callers,
    worker.focus = .feed loop result callers →
      let machine := worker.machine chronicle.pool.host
      ∀ frame below, Loop.frameFor loop.pending result = (some frame, below) →
        ∃ call caller, frame.call? result loop.token = some call ∧
          machine.next = Machine.call call.code caller callers machine.host
  /-- A run that ends has told no outcome before, and tells this one. -/
  told : ∀ worker ∈ chronicle.pool.workers, ∀ run outcome callers,
    worker.focus = .finish run outcome callers →
      (worker.machine chronicle.pool.host).Tells run outcome
  /-- A registration that returns to a parked boundary finds the outcome that was parked and the stack
  that was saved when the boundary was armed, and goes on with them. -/
  detached : ∀ worker ∈ chronicle.pool.workers, ∀ caller run epoch token callers,
    (caller = .registering run epoch token ∨ caller = .detaching run epoch token) →
    worker.focus = .code (.done .unit) (.push caller callers) →
      let machine := worker.machine chronicle.pool.host
      let records := recordsOf run chronicle.history
      let cells := Cells.after records
      cells.epoch = epoch → cells.word = .parked →
        ∃ outcome, ∃ reach ∈ reaches records, reach.epoch = epoch ∧
          (attempts epoch records).head? = some ⟨outcome, reach.thread⟩ ∧
          (cells.detach epoch).1 = some (outcome, reach.pending) ∧
          machine.next.focus = .goingOn run outcome reach.pending token callers

/-- All that handlers, receivers and steppers are given is within bounds. -/
structure Chronicle.ShowsOnly (bounds : Bounds Memory) (chronicle : Chronicle Memory) : Prop where
  fed : ∀ worker ∈ chronicle.pool.workers, ∀ {form : Form} (loop : Loop Memory form) result callers,
    worker.focus = .feed loop result callers → Result.Respects bounds result
  told : ∀ worker ∈ chronicle.pool.workers, ∀ run outcome callers,
    worker.focus = .finish run outcome callers → outcome.Respects bounds
  completed : ∀ worker ∈ chronicle.pool.workers, ∀ completer outcome callers,
    worker.focus = .complete completer outcome callers → outcome.Respects bounds
  ended : ∀ run outcome, chronicle.pool.host.outcome? run = some outcome → outcome.Respects bounds
  stepped : ∀ (kept : Nat) plan, chronicle.pool.host.kept[kept]? = some plan → plan.Respects bounds

theorem Chronicle.Respects.showsOnly {bounds : Bounds Memory} {chronicle : Chronicle Memory}
    (respects : chronicle.Respects bounds) : chronicle.ShowsOnly bounds where
  fed worker member _ loop result callers focused := by
    have within := respects.workers worker member
    rw [focused] at within
    exact within.2.1
  told worker member run outcome callers focused := by
    have within := respects.workers worker member
    rw [focused] at within
    exact within.1
  completed worker member completer outcome callers focused := by
    have within := respects.workers worker member
    rw [focused] at within
    exact within.1
  ended run outcome found := respects.host.outcome? found
  stepped kept plan found := respects.host.holds.kept kept plan found

/-- No fault is ever reached, with completions made one at a time and in any order; and whoever is
given a failure is given a panic or one that programs come up with themselves. -/
theorem Pool.faultless_chronicle (memory : Memory) (codes : List (Option String × Code Memory .unit))
    (schedule : List Nat) :
    let chronicle := (Pool.opening memory codes).chronicle schedule
    chronicle.Faultless ∧
      ∀ bounds : Bounds Memory, bounds.memory memory →
        (∀ entry ∈ codes, entry.2.Respects bounds) → chronicle.ShowsOnly bounds := by
  intro chronicle
  have tracked : Tracked chronicle.history chronicle.pool.situation :=
    Pool.tracked_chronicle memory codes schedule
  have ledger : Ledger chronicle.history chronicle.pool.situation :=
    Pool.ledger_chronicle memory codes schedule
  have shows : ∀ run, (Cells.after (recordsOf run chronicle.history)).Shows
      (boundaryOf chronicle.pool.host.runs run) :=
    Cells.upkeep.chronicle memory codes schedule
  constructor
  · constructor
    case iterated =>
      intro worker _ form loop plan callers focused machine segment
      refine ⟨Segment.sound_turn machine.host loop.purpose rfl, ?_⟩
      rw [worker.next_of_focus focused]
      exact Segment.plays_turn plan
    case met =>
      intro worker _ form loop result callers focused machine frame below found
      rw [worker.next_of_focus focused]
      exact Loop.feed_of_frame callers machine.host found
    case told =>
      intro worker member run outcome callers focused
      have ending : (run, Standing.ending outcome) ∈ chronicle.pool.situation.loops := by
        refine List.mem_flatMap.2 ⟨worker, member, ?_⟩
        rw [focused]
        exact .head _
      obtain ⟨entry, found, untold⟩ :=
        (Situation.ready_of_ledger tracked ledger).untold run outcome ending
      refine Machine.told_iff.1 ?_
      simp [Machine.happenings, Worker.machine, focused, Focus.happenings,
        show chronicle.pool.host.runs[run]? = some entry from found, untold]
    case detached =>
      intro worker _ caller run epoch token callers waits focused machine records cells same parked
      rw [worker.next_of_focus focused]
      rcases waits with rfl | rfl
      · exact Machine.detach_of_parked machine.host.closeGuard (ledger run) (shows run) same parked
      · exact Machine.detach_of_parked machine.host (ledger run) (shows run) same parked
  · intro bounds within respects
    exact (Pool.respects_chronicle within respects schedule).showsOnly

/-- Programs that come up with no internal failure themselves. -/
def Bounds.external : Bounds Memory where
  failure failure := failure.isInternal = false
  memory _ := True
  panicked _ := rfl

def Plan.troubled : Plan Unit :=
  .handle (.fromAsync fun _ _ => .panic (.message "no source") true) fun failure =>
    Code.plan (.raise failure)

/-- The branches for broken invariants are never taken while completions are made one at a time.
However they race, none is told twice; and what the word says is parked is found, with the stack of
its arming, unless one completion overtakes another. -/
theorem faults_unreachable :
    (∀ (memory : Memory) (codes : List (Option String × Code Memory .unit)) (schedule : List Nat),
      let chronicle := (Pool.opening memory codes).chronicle schedule
      chronicle.Faultless ∧
        ∀ bounds : Bounds Memory, bounds.memory memory →
          (∀ entry ∈ codes, entry.2.Respects bounds) → chronicle.ShowsOnly bounds) ∧
    ∀ (threads : Nat) (token : Token) (schedule : List (Nat × Race.Choice Memory)),
      let race := (Race.opening threads token).play schedule
      (Race.armings race.log).length < 2 ^ 62 →
        (Race.tellings race.log).length ≤ 1 ∧
          ((Race.opening threads token).undisturbed schedule → race.Finds) := by
  constructor
  · exact fun memory codes schedule => Pool.faultless_chronicle memory codes schedule
  · intro threads token schedule race bound
    have kept := Race.kept_play threads token schedule bound
    exact ⟨kept.tellings_length_le_one, fun undisturbed =>
      kept.finds (Race.steady_play undisturbed bound)⟩

/-- A run of it parks the panic at its boundary, takes it up and tells it: nothing internal.  Where one
thread completes the boundary that it registers, what it parks is found. -/
theorem faults_unreachable_troubled :
    (∀ entry ∈ Plan.troubled.alone, entry.2.Respects Bounds.external) ∧
      (∃ failure, ((Pool.opening () Plan.troubled.alone).chronicle
          (List.replicate 13 0)).pool.host.outcome? 0 = some (.failed failure) ∧
        failure = .panicked ⟨"no source", 1, none⟩ ∧ failure.isInternal = false) ∧
      let schedule : List (Nat × Race.Choice Unit) := [(0, .reach {} .uncancelable)] ++
        Race.accesses 0 5 ++ [(0, .fire 1 (.completed (.datum .null)))] ++ Race.accesses 0 4 ++
        [(0, .leave)] ++ Race.accesses 0 2
      let race := (Race.opening 0 .uncancelable).play schedule
      (Race.armings race.log).length < 2 ^ 62 ∧
        (Race.opening 0 .uncancelable).undisturbed schedule = true ∧ race.Finds := by
  have respects : ∀ entry ∈ Plan.troubled.alone, entry.2.Respects Bounds.external := by
    intro entry member
    obtain rfl := List.mem_singleton.1 member
    refine .run (.handle (.async (.calling fun _ _ => .panic)) fun failure bounded => ?_)
      (fun _ _ => .unit) .unit
    exact .done (.plan (.raise bounded))
  have shows := (faults_unreachable.1 () Plan.troubled.alone (List.replicate 13 0)).2 .external
    trivial respects
  have told : (((Pool.opening () Plan.troubled.alone).chronicle
      (List.replicate 13 0)).pool.host.outcome? 0).bind Outcome.failure? =
        some (.panicked ⟨"no source", 1, none⟩) := by decide +kernel
  obtain ⟨outcome, found, failed⟩ := Option.bind_eq_some_iff.1 told
  have bounded := shows.ended 0 outcome found
  cases outcome with
  | failed failure =>
      cases failed
      refine ⟨respects, ⟨_, found, rfl, bounded⟩, ?_⟩
      intro schedule race
      have undisturbed : (Race.opening 0 .uncancelable).undisturbed schedule = true := by decide
      have bound : (Race.armings race.log).length < 2 ^ 62 := by
        have once : (Race.armings race.log).length = 1 := rfl
        rw [once]
        decide
      exact ⟨bound, undisturbed, (faults_unreachable.2 0 .uncancelable schedule bound).2 undisturbed⟩
  | completed | canceled => cases failed

end Trampoline
