import Trampoline.Proofs.Reachable

/-!
The first completion of a boundary wins, and none is dropped silently.

A worker that is about to complete a boundary makes the first attempt on it, or a later one, and the
history tells which.  The first one decides how the run goes on, on the thread that registered it or
on the one that completed it; any other is reported and changes nothing.
-/

namespace Trampoline

variable {Memory : Type} {last : Form}

namespace Record

def isAttempt (epoch : Nat) (record : Record Memory) : Bool :=
  (record.attempt? epoch).isSome

def isCrossing (epoch : Nat) (record : Record Memory) : Bool :=
  (record.crossing? epoch).isSome

end Record

theorem Worker.next_of_focus (worker : Worker Memory) {host : Host Memory}
    {focus : Focus Memory worker.last} (focused : worker.focus = focus) :
    (worker.machine host).next = Machine.next ⟨focus, (worker.machine host).host⟩ := by
  rw [machine, focused]

structure Chronicle.Settled (chronicle : Chronicle Memory) : Prop where
  /-- The boundaries of a run are numbered in the order in which it reaches them. -/
  numbered : ∀ run, (reaches (recordsOf run chronicle.history)).map Reach.epoch =
    List.range' 1 (reaches (recordsOf run chronicle.history)).length
  /-- The first attempt crosses a boundary, with its outcome, and no other does. -/
  first : ∀ run epoch, crossings epoch (recordsOf run chronicle.history) =
    ((attempts epoch (recordsOf run chronicle.history)).head?.map Attempt.outcome).toList
  /-- Whatever is attempted is accepted or reported. -/
  balanced : ∀ epoch, chronicle.history.countP (Record.isAttempt epoch) =
    chronicle.history.countP (Record.isCrossing epoch) + chronicle.pool.host.warnings.count epoch
  /-- A first attempt is parked for its registration, if that is still running on the thread, and
  resumes the run at once otherwise: either way with what the boundary was reached with. -/
  accepted : ∀ worker ∈ chronicle.pool.workers, ∀ completer outcome callers,
    worker.focus = .complete completer outcome callers →
      let machine := worker.machine chronicle.pool.host
      let records := recordsOf completer.run chronicle.history
      attempts completer.epoch records = [] →
        ∀ reach ∈ reaches records, reach.epoch = completer.epoch →
          if reach.thread = worker.thread.id ∧ returns completer.epoch records = 0 then
            machine.next = Machine.finished callers (machine.host.setBoundary completer.run
              ⟨reach.epoch, reach.token, .parked reach.pending outcome⟩)
          else
            machine.next = ⟨.goingOn completer.run outcome reach.pending reach.token callers,
              (machine.host.setBoundary completer.run ⟨reach.epoch, reach.token, .idle⟩).emit
                (.resuming reach.epoch)⟩
  /-- Any other attempt is reported once, and nothing comes of it. -/
  ignored : ∀ worker ∈ chronicle.pool.workers, ∀ completer outcome callers,
    worker.focus = .complete completer outcome callers →
      let machine := worker.machine chronicle.pool.host
      let records := recordsOf completer.run chronicle.history
      (attempts completer.epoch records ≠ [] ∨
          ∀ reach ∈ reaches records, reach.epoch ≠ completer.epoch) →
        machine.next =
          Machine.finished callers (machine.host.emit (.ignoredCompletion completer.epoch))
  /-- A registration that panics tries to complete its boundary with the panic. -/
  panicked : ∀ worker ∈ chronicle.pool.workers, ∀ payload run epoch token callers,
    worker.focus = .unwind payload (.push (.registering run epoch token) callers) →
      let machine := worker.machine chronicle.pool.host
      let (panic, host) := machine.host.capture payload
      machine.next = ⟨.complete ⟨run, epoch⟩ (.failed (.panicked panic))
        (.push (.detaching run epoch token) callers), host⟩
  /-- A registration that returns goes on with the run exactly if the first attempt was made on its
  thread, which it was before the return. -/
  returned : ∀ worker ∈ chronicle.pool.workers, ∀ caller run epoch token callers,
    (caller = .registering run epoch token ∨ caller = .detaching run epoch token) →
    worker.focus = .code (.done .unit) (.push caller callers) →
      let machine := worker.machine chronicle.pool.host
      let records := recordsOf run chronicle.history
      ∃ reach ∈ reaches records, reach.epoch = epoch ∧ reach.thread = worker.thread.id ∧
        returns epoch records = 0 ∧
        machine.next.focus =
          match (attempts epoch records).head? with
          | some first =>
              if first.thread = worker.thread.id then
                .goingOn run first.outcome reach.pending reach.token callers
              else .code Code.unit callers
          | none => .code Code.unit callers

namespace Account

variable {records : List (Record Memory)} {openings : List Opening}
  {boundary? : Option (Boundary Memory)} {boundary : Boundary Memory} {reach : Reach Memory}

theorem armed_of_unattempted (account : Account records openings boundary?)
    (member : reach ∈ reaches records) (unattempted : attempts reach.epoch records = []) :
    ∃ boundary, boundary? = some boundary ∧ boundary.epoch = reach.epoch ∧
      boundary.token = reach.token ∧
        ((boundary.phase = .registering reach.thread reach.pending ∧
            returns reach.epoch records = 0) ∨
          (boundary.phase = .waiting reach.pending ∧ returns reach.epoch records ≠ 0)) := by
  rcases account.past_or_kept member with past | ⟨boundary, rfl, epoch⟩
  · obtain ⟨first, attempted, _⟩ := account.past reach member past
    simp [unattempted] at attempted
  · have fits := account.fits boundary rfl
    refine ⟨boundary, rfl, epoch, ?_⟩
    unfold Boundary.Fits at fits
    rw [epoch] at fits
    split at fits
    · obtain ⟨other, _, sameEpoch, first, attempted, _⟩ := fits
      rw [sameEpoch] at attempted
      simp [unattempted] at attempted
    · rename_i phase
      obtain ⟨_, unreturned, other, otherMember, sameEpoch, token, rfl, rfl⟩ := fits
      obtain rfl := account.eq_of_epoch_eq otherMember member sameEpoch
      exact ⟨token.symm, .inl ⟨phase, unreturned⟩⟩
    · rename_i phase
      obtain ⟨_, returned, other, otherMember, sameEpoch, token, rfl⟩ := fits
      obtain rfl := account.eq_of_epoch_eq otherMember member sameEpoch
      exact ⟨token.symm, .inr ⟨phase, Nat.ne_of_gt returned⟩⟩
    · obtain ⟨_, other, _, sameEpoch, _, _, attempted⟩ := fits
      simp [unattempted] at attempted

theorem detach_eq (account : Account records openings (some boundary))
    (member : reach ∈ reaches records) (unreturned : returns reach.epoch records = 0) :
    (boundary.detach reach.epoch).1 =
      match (attempts reach.epoch records).head? with
      | some first =>
          if first.thread = reach.thread then some (first.outcome, reach.pending) else none
      | none => none := by
  rcases account.past_or_kept member with past | ⟨_, same, latest⟩
  · have other : boundary.epoch ≠ reach.epoch := Nat.ne_of_gt past
    obtain ⟨first, attempted, elsewhere⟩ := account.past reach member past
    rw [attempted]
    simp [Boundary.detach, other, elsewhere unreturned]
  · cases same
    have fits := account.fits boundary rfl
    obtain ⟨epoch, token, phase⟩ := boundary
    subst latest
    unfold Boundary.Fits at fits
    cases phase with
    | idle =>
        obtain ⟨other, otherMember, sameEpoch, first, attempted, elsewhere⟩ := fits
        obtain rfl := account.eq_of_epoch_eq otherMember member sameEpoch
        rw [attempted]
        simp [Boundary.detach, elsewhere unreturned]
    | registering thread pending =>
        obtain ⟨unattempted, _⟩ := fits
        dsimp only at unattempted
        rw [unattempted]
        simp [Boundary.detach]
    | waiting pending =>
        obtain ⟨_, returned, _⟩ := fits
        dsimp only at returned
        omega
    | parked pending outcome =>
        obtain ⟨_, other, otherMember, sameEpoch, _, rfl, attempted⟩ := fits
        obtain rfl := account.eq_of_epoch_eq otherMember member sameEpoch
        dsimp only at attempted
        rw [attempted]
        simp [Boundary.detach]

theorem unreturned_of_open (account : Account records openings boundary?) {opening : Opening}
    (open_ : opening ∈ openings) : returns opening.epoch records = 0 := by
  have counted := account.counted opening.epoch
  have once := account.countP_epoch_le_one opening.epoch
  have positive : 0 < openings.countP fun other => decide (other.epoch = opening.epoch) :=
    List.countP_pos_iff.2 ⟨opening, open_, decide_eq_true rfl⟩
  omega

theorem refused (account : Account records openings boundary?) {epoch : Nat}
    (passed : attempts epoch records ≠ [] ∨ ∀ reach ∈ reaches records, reach.epoch ≠ epoch)
    (found : boundary? = some boundary) : ¬(boundary.epoch = epoch ∧ boundary.isArmed = true) := by
  rintro ⟨rfl, armed⟩
  rcases passed with attempted | unreached
  · exact attempted (account.attempts_of_armed found armed)
  · obtain ⟨reach, member, same⟩ := account.reached_of_some found
    exact unreached reach member same

end Account

namespace Machine

variable (host : Host Memory) {callers : Callers Memory last .unit} {completer : Completer}
  {outcome : Outcome Value} {records : List (Record Memory)} {openings : List Opening}

theorem complete_of_unattempted
    (account : Account records openings (boundaryOf host.runs completer.run))
    (unattempted : attempts completer.epoch records = []) {reach : Reach Memory}
    (member : reach ∈ reaches records) (same : reach.epoch = completer.epoch) :
    if reach.thread = host.thread.id ∧ returns completer.epoch records = 0 then
      complete completer outcome callers host = finished callers (host.setBoundary completer.run
        ⟨reach.epoch, reach.token, .parked reach.pending outcome⟩)
    else
      complete completer outcome callers host =
        ⟨.goingOn completer.run outcome reach.pending reach.token callers,
          (host.setBoundary completer.run ⟨reach.epoch, reach.token, .idle⟩).emit
            (.resuming reach.epoch)⟩ := by
  rw [← same] at unattempted ⊢
  obtain ⟨⟨epoch, token, phase⟩, found, rfl, rfl, armed⟩ :=
    account.armed_of_unattempted member unattempted
  have located : host.boundary? completer.run = some ⟨reach.epoch, reach.token, phase⟩ := found
  -- Whatever does not park the outcome resumes the run on the spot.
  have resumes {boundary : Boundary Memory} (resumed : Boundary.complete
      ⟨reach.epoch, reach.token, phase⟩ completer.epoch host.thread.id outcome =
        .resumed boundary reach.pending) :
      complete completer outcome callers host =
        ⟨.goingOn completer.run outcome reach.pending boundary.token callers,
          (host.setBoundary completer.run boundary).emit (.resuming reach.epoch)⟩ := by
    simp only [complete, located, Option.map_some, Option.getD_some, resumed]
    rw [same]
    cases outcome <;> rfl
  rcases armed with ⟨registering, unreturned⟩ | ⟨waiting, returned⟩
  · by_cases here : reach.thread = host.thread.id
    · rw [if_pos ⟨here, unreturned⟩]
      have parked : Boundary.complete ⟨reach.epoch, reach.token, phase⟩ completer.epoch
          host.thread.id outcome =
            .parked ⟨reach.epoch, reach.token, .parked reach.pending outcome⟩ :=
        Boundary.complete_eq_parked_iff.2 ⟨same, reach.pending, by rw [registering, here], rfl⟩
      simp only [complete, located, Option.map_some, Option.getD_some, parked]
    · rw [if_neg fun both => here both.1]
      exact resumes (Boundary.complete_eq_resumed_iff.2
        ⟨same, .inl ⟨reach.thread, registering, here⟩, rfl⟩)
  · rw [if_neg fun both => returned both.2]
    exact resumes (Boundary.complete_eq_resumed_iff.2 ⟨same, .inr waiting, rfl⟩)

theorem complete_of_over
    (account : Account records openings (boundaryOf host.runs completer.run))
    (passed : attempts completer.epoch records ≠ [] ∨
      ∀ reach ∈ reaches records, reach.epoch ≠ completer.epoch) :
    complete completer outcome callers host =
      finished callers (host.emit (.ignoredCompletion completer.epoch)) := by
  cases found : host.boundary? completer.run with
  | none => simp [complete, found]
  | some boundary =>
      have ignored : boundary.complete completer.epoch host.thread.id outcome = .ignored := by
        rw [Boundary.complete_eq_ignored_iff]
        exact account.refused passed found
      simp [complete, found, ignored]

theorem focus_detach {host : Host Memory} {run epoch : Nat} {token : Token}
    {boundary : Boundary Memory}
    (located : host.boundary? run = some boundary) :
    (detach run epoch token callers host).focus =
      match (boundary.detach epoch).1 with
      | some (outcome, pending) => .goingOn run outcome pending token callers
      | none => .code Code.unit callers := by
  rcases left : boundary.detach epoch with ⟨_ | ⟨outcome, pending⟩, after⟩
  · simp [detach, located, left, finished]
  · simp only [detach, located, Option.map_some, left]
    cases outcome <;> rfl

theorem focus_detach_of_open {opening : Opening} (account : Account records openings
      (boundaryOf host.runs opening.run)) (open_ : opening ∈ openings)
    (here : opening.thread = host.thread.id) :
    ∃ reach ∈ reaches records, reach.epoch = opening.epoch ∧ reach.thread = host.thread.id ∧
      returns opening.epoch records = 0 ∧
      (detach opening.run opening.epoch opening.token callers host).focus =
        match (attempts opening.epoch records).head? with
        | some first =>
            if first.thread = host.thread.id then
              .goingOn opening.run first.outcome reach.pending reach.token callers
            else .code Code.unit callers
        | none => .code Code.unit callers := by
  obtain ⟨reach, member, sameEpoch, sameToken, sameThread⟩ := account.opened opening open_
  have unreturned := account.unreturned_of_open open_
  refine ⟨reach, member, sameEpoch, by rw [sameThread, here], unreturned, ?_⟩
  cases found : boundaryOf host.runs opening.run with
  | none =>
      have bounds := account.epoch_bounds member
      simp [found, epochs] at bounds
      omega
  | some boundary =>
      rw [found] at account
      rw [← sameEpoch] at unreturned ⊢
      rw [focus_detach found, account.detach_eq member unreturned, sameThread, here, ← sameToken]
      cases (attempts reach.epoch records).head? with
      | none => rfl
      | some first => by_cases same : first.thread = host.thread.id <;> simp [same]

end Machine

def Balanced (history : List (Record Memory)) (situation : Situation Memory) : Prop :=
  ∀ epoch, history.countP (Record.isAttempt epoch) =
    history.countP (Record.isCrossing epoch) + situation.warnings.count epoch

namespace Balanced

variable {history more : List (Record Memory)} {situation after : Situation Memory}

theorem still (balanced : Balanced history situation)
    (still : ∀ record ∈ more, ∀ epoch, record.isAttempt epoch = false ∧
      record.isCrossing epoch = false)
    (warnings : after.warnings = situation.warnings) : Balanced (history ++ more) after := by
  intro epoch
  have noAttempt : more.countP (Record.isAttempt epoch) = 0 := by
    apply List.countP_eq_zero.2
    intro record member
    simp [still record member epoch]
  have noCrossing : more.countP (Record.isCrossing epoch) = 0 := by
    apply List.countP_eq_zero.2
    intro record member
    simp [still record member epoch]
  rw [List.countP_append, List.countP_append, noAttempt, noCrossing, warnings]
  exact balanced epoch

/-- An attempt that is accepted is crossed, and one that is not is reported. -/
theorem attempt (balanced : Balanced history situation) {run tried thread : Nat}
    {outcome : Outcome Value} {maker : Maker} (happenings : List (Nat × Happening Memory))
    (answered : (happenings = [(run, .crossed tried outcome)] ∧
        after.warnings = situation.warnings) ∨
      (happenings = [] ∧ after.warnings = tried :: situation.warnings)) :
    Balanced (history ++ recorded thread ((run, .attempted tried outcome maker) :: happenings))
      after := by
  intro epoch
  have counted := balanced epoch
  rcases answered with ⟨rfl, warnings⟩ | ⟨rfl, warnings⟩ <;> by_cases same : tried = epoch <;>
    simp [recorded, Record.isAttempt, Record.isCrossing, Record.attempt?, Record.crossing?,
      warnings, same, counted]
  all_goals omega

theorem invariant : Invariant (Balanced : List (Record Memory) → Situation Memory → Prop) where
  similar := by
    intro history situation other balanced same epoch
    rw [← same.warnings]
    exact balanced epoch
  effect := by
    intro history situation thread happenings after _ _ balanced effect
    cases effect with
    | @loop run standing next happenings _ _ _ _ _ _ _ leads inner retokened =>
        refine balanced.still ?_ rfl
        intro record member epoch
        obtain ⟨_, listed, rfl⟩ := List.mem_map.1 member
        obtain ⟨happening, here, rfl⟩ := List.mem_map.1 listed
        have isInner := List.all_eq_true.1 inner happening here
        cases happening <;> first | exact ⟨rfl, rfl⟩ | cases isInner
    | ignore refused takes => exact balanced.attempt [] (.inr ⟨rfl, rfl⟩)
    | park found accepted takes => exact balanced.attempt [_] (.inl ⟨rfl, rfl⟩)
    | resume found accepted takes => exact balanced.attempt [_] (.inl ⟨rfl, rfl⟩)
    | reach | start | launch | lose | wait | takeUp | tell =>
        refine balanced.still ?_ rfl
        simp [recorded, Record.isAttempt, Record.isCrossing, Record.attempt?, Record.crossing?]

end Balanced

/-- Where completions are made one at a time, the first attempt on a boundary decides how the run goes
on, and no other changes anything. -/
theorem Pool.settled_chronicle (memory : Memory)
    (codes : List (Option String × Code Memory .unit)) (schedule : List Nat) :
    ((Pool.opening memory codes).chronicle schedule).Settled := by
  have ledger := Pool.ledger_chronicle memory codes schedule
  have nothing : Balanced [] (Pool.opening memory codes).situation := by
    rw [Pool.situation_opening]
    intro epoch
    rfl
  have balanced := (Balanced.invariant.chronicle memory codes nothing schedule).kept.kept
  generalize (Pool.opening memory codes).chronicle schedule = chronicle at ledger balanced ⊢
  constructor
  case numbered =>
    intro run
    have numbered := (ledger run).numbered
    have length := congrArg List.length numbered
    rw [List.length_map, List.length_range'] at length
    rw [numbered, length]
  case first => exact fun run => (ledger run).first
  case balanced => exact balanced
  case accepted =>
    intro worker _ completer outcome callers focused machine records unattempted reach member same
    rw [worker.next_of_focus focused]
    exact Machine.complete_of_unattempted machine.host (ledger completer.run)
      unattempted member same
  case ignored =>
    intro worker _ completer outcome callers focused machine records passed
    rw [worker.next_of_focus focused]
    exact Machine.complete_of_over machine.host (ledger completer.run) passed
  case panicked =>
    intro worker _ payload run epoch token callers focused machine
    dsimp only
    rw [worker.next_of_focus focused]
    rfl
  case returned =>
    intro worker member caller run epoch token callers waits focused machine records
    have open_ : Opening.mk run epoch token worker.thread.id ∈
        openingsOf run chronicle.pool.situation.openings := by
      refine List.mem_filter.2 ⟨List.mem_flatMap.2 ⟨worker, member, ?_⟩, decide_eq_true rfl⟩
      rw [focused]
      rcases waits with rfl | rfl <;> exact .head _
    rw [worker.next_of_focus focused]
    rcases waits with rfl | rfl
    · exact Machine.focus_detach_of_open machine.host.closeGuard (ledger run) open_ rfl
    · exact Machine.focus_detach_of_open machine.host (ledger run) open_ rfl

end Trampoline
