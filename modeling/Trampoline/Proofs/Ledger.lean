import Trampoline.Proofs.Course

/-!
What a history says about the boundaries of a run.

The boundaries that a run has reached are numbered in order.  For each of them the first attempt
since it was reached crosses it and no other does, and its registration is open until it returns.
The boundary that the host keeps for a run agrees with that history: it is armed until the first
attempt, it is parked or registering until the registration returns, and it holds the frames and the
token with which it was reached.
-/

namespace Trampoline

variable {Memory : Type}

/-- A boundary as a run reached it, and the thread that called its registration. -/
structure Reach (Memory : Type) where
  epoch : Nat
  registration : Registration Memory
  token : Token
  pending : Stack (Frame Memory)
  thread : Nat

structure Attempt where
  outcome : Outcome Value
  thread : Nat

def recordsOf (run : Nat) (history : List (Record Memory)) : List (Record Memory) :=
  history.filter fun record => decide (record.run = run)

namespace Record

def reach? (record : Record Memory) : Option (Reach Memory) :=
  match record.happening with
  | .reached epoch registration token pending =>
      some { epoch, registration, token, pending, thread := record.thread }
  | _ => none

def attempt? (epoch : Nat) (record : Record Memory) : Option Attempt :=
  match record.happening with
  | .attempted tried outcome _ =>
      if tried = epoch then some { outcome, thread := record.thread } else none
  | _ => none

def crossing? (epoch : Nat) (record : Record Memory) : Option (Outcome Value) :=
  match record.happening with
  | .crossed crossed outcome => if crossed = epoch then some outcome else none
  | _ => none

def isReturn (epoch : Nat) (record : Record Memory) : Bool :=
  match record.happening with
  | .returned returned => decide (returned = epoch)
  | _ => false

def isSilent (record : Record Memory) : Bool :=
  match record.happening with
  | .reached _ _ _ _ | .attempted _ _ _ | .crossed _ _ | .returned _ => false
  | _ => true

theorem of_isSilent {record : Record Memory} (silent : record.isSilent = true) :
    record.reach? = none ∧ ∀ epoch, record.attempt? epoch = none ∧
      record.crossing? epoch = none ∧ record.isReturn epoch = false := by
  obtain ⟨run, thread, happening⟩ := record
  cases happening <;> first | exact ⟨rfl, fun _ => ⟨rfl, rfl, rfl⟩⟩ | cases silent

end Record

section Records

variable {records more : List (Record Memory)} {epoch : Nat}

def reaches (records : List (Record Memory)) : List (Reach Memory) :=
  records.filterMap Record.reach?

/-- What happened from when the boundary of an epoch was reached. -/
def since (epoch : Nat) (records : List (Record Memory)) : List (Record Memory) :=
  records.dropWhile fun record => !record.reach?.any fun reach => decide (reach.epoch = epoch)

def attempts (epoch : Nat) (records : List (Record Memory)) : List Attempt :=
  (since epoch records).filterMap (Record.attempt? epoch)

def crossings (epoch : Nat) (records : List (Record Memory)) : List (Outcome Value) :=
  records.filterMap (Record.crossing? epoch)

def returns (epoch : Nat) (records : List (Record Memory)) : Nat :=
  records.countP (Record.isReturn epoch)

theorem reaches_append (records more : List (Record Memory)) :
    reaches (records ++ more) = reaches records ++ reaches more :=
  List.filterMap_append ..

theorem crossings_append (epoch : Nat) (records more : List (Record Memory)) :
    crossings epoch (records ++ more) = crossings epoch records ++ crossings epoch more :=
  List.filterMap_append ..

theorem returns_append (epoch : Nat) (records more : List (Record Memory)) :
    returns epoch (records ++ more) = returns epoch records + returns epoch more :=
  List.countP_append ..

theorem since_append_of_reached (reached : ∃ reach ∈ reaches records, reach.epoch = epoch)
    (more : List (Record Memory)) : since epoch (records ++ more) = since epoch records ++ more := by
  obtain ⟨reach, member, same⟩ := reached
  obtain ⟨record, here, shown⟩ := List.mem_filterMap.1 member
  induction records with
  | nil => cases here
  | cons first rest inductionHypothesis =>
      simp only [since, List.cons_append, List.dropWhile_cons]
      split
      · rename_i passed
        rcases List.mem_cons.1 here with rfl | later
        · simp [shown, same] at passed
        · exact inductionHypothesis (List.mem_filterMap.2 ⟨record, later, shown⟩) later
      · rfl

theorem since_append_of_unreached (unreached : ∀ reach ∈ reaches records, reach.epoch ≠ epoch)
    (more : List (Record Memory)) : since epoch (records ++ more) = since epoch more := by
  apply List.dropWhile_append_of_pos
  intro record member
  cases shown : record.reach? with
  | none => rfl
  | some reach =>
      have different := unreached reach (List.mem_filterMap.2 ⟨record, member, shown⟩)
      simp [different]

theorem attempts_of_unreached (unreached : ∀ reach ∈ reaches records, reach.epoch ≠ epoch) :
    attempts epoch records = [] := by
  have nothing := since_append_of_unreached unreached []
  rw [List.append_nil] at nothing
  rw [attempts, nothing]
  rfl

theorem attempts_append_of_reached (reached : ∃ reach ∈ reaches records, reach.epoch = epoch)
    (more : List (Record Memory)) :
    attempts epoch (records ++ more) =
      attempts epoch records ++ more.filterMap (Record.attempt? epoch) := by
  rw [attempts, since_append_of_reached reached, List.filterMap_append, attempts]

theorem attempts_append_of_none (none : ∀ record ∈ more, record.attempt? epoch = none) :
    attempts epoch (records ++ more) = attempts epoch records := by
  by_cases reached : ∃ reach ∈ reaches records, reach.epoch = epoch
  · rw [attempts_append_of_reached reached, List.filterMap_eq_nil_iff.2 none, List.append_nil]
  · have unreached : ∀ reach ∈ reaches records, reach.epoch ≠ epoch := fun reach member same =>
      reached ⟨reach, member, same⟩
    rw [attempts_of_unreached unreached, attempts, since_append_of_unreached unreached]
    apply List.filterMap_eq_nil_iff.2
    intro record member
    exact none record (List.dropWhile_subset _ member)

end Records

/-- How many boundaries a run has reached, by the one that is kept for it. -/
def epochs (boundary? : Option (Boundary Memory)) : Nat :=
  (boundary?.map Boundary.epoch).getD 0

/-- A boundary has been attempted; if its registration is open, first by another thread. -/
def Reach.IsPassed (records : List (Record Memory)) (reach : Reach Memory) : Prop :=
  ∃ first, (attempts reach.epoch records).head? = some first ∧
    (returns reach.epoch records = 0 → first.thread ≠ reach.thread)

/-- A boundary is what a history says of its epoch. -/
def Boundary.Fits (records : List (Record Memory)) (boundary : Boundary Memory) : Prop :=
  match boundary.phase with
  | .idle => ∃ reach ∈ reaches records, reach.epoch = boundary.epoch ∧ reach.IsPassed records
  | .registering thread pending =>
      attempts boundary.epoch records = [] ∧ returns boundary.epoch records = 0 ∧
        ∃ reach ∈ reaches records, reach.epoch = boundary.epoch ∧ reach.token = boundary.token ∧
          reach.pending = pending ∧ reach.thread = thread
  | .waiting pending =>
      attempts boundary.epoch records = [] ∧ 0 < returns boundary.epoch records ∧
        ∃ reach ∈ reaches records, reach.epoch = boundary.epoch ∧ reach.token = boundary.token ∧
          reach.pending = pending
  | .parked pending outcome =>
      returns boundary.epoch records = 0 ∧
        ∃ reach ∈ reaches records, reach.epoch = boundary.epoch ∧ reach.token = boundary.token ∧
          reach.pending = pending ∧
          (attempts boundary.epoch records).head? = some { outcome, thread := reach.thread }

/-! ### Boundaries that are completed and detached -/

namespace Boundary.Fits

variable {records later : List (Record Memory)} {boundary after : Boundary Memory}
  {epoch thread : Nat} {outcome : Outcome Value} {pending : Stack (Frame Memory)}

theorem parked (fits : boundary.Fits records)
    (accepted : boundary.complete epoch thread outcome = .parked after)
    (attempted : attempts boundary.epoch later = [⟨outcome, thread⟩])
    (reached : reaches later = reaches records)
    (returned : returns boundary.epoch later = returns boundary.epoch records) :
    after.Fits later := by
  obtain ⟨_, pending, phase, rfl⟩ := complete_eq_parked_iff.1 accepted
  simp only [Boundary.Fits, phase] at fits
  obtain ⟨_, unreturned, reach, member, same, token, saved, rfl⟩ := fits
  simp only [Boundary.Fits, attempted, returned, reached]
  exact ⟨unreturned, reach, member, same, token, saved, rfl⟩

theorem resumed (fits : boundary.Fits records)
    (accepted : boundary.complete epoch thread outcome = .resumed after pending)
    (attempted : attempts boundary.epoch later = [⟨outcome, thread⟩])
    (reached : reaches later = reaches records)
    (returned : returns boundary.epoch later = returns boundary.epoch records) :
    after.Fits later := by
  obtain ⟨_, armed, rfl⟩ := complete_eq_resumed_iff.1 accepted
  simp only [Boundary.Fits, Reach.IsPassed, reached]
  rcases armed with ⟨registrar, phase, elsewhere⟩ | phase
  · simp only [Boundary.Fits, phase] at fits
    obtain ⟨_, _, reach, member, same, _, _, rfl⟩ := fits
    exact ⟨reach, member, same, ⟨outcome, thread⟩, by rw [same, attempted]; rfl,
      fun _ => elsewhere.symm⟩
  · simp only [Boundary.Fits, phase] at fits
    obtain ⟨_, positive, reach, member, same, _⟩ := fits
    refine ⟨reach, member, same, ⟨outcome, thread⟩, by rw [same, attempted]; rfl, ?_⟩
    intro none
    rw [same, returned] at none
    omega

section Detach

variable (fits : boundary.Fits records)
  (attempted : attempts boundary.epoch later = attempts boundary.epoch records)
  (reached : reaches later = reaches records)
  (returned : returns boundary.epoch later =
    returns boundary.epoch records + (if epoch = boundary.epoch then 1 else 0))
include fits attempted reached returned

theorem waits (left : boundary.detach epoch = (none, after)) : after.Fits later := by
  rcases detach_eq_none left with ⟨registrar, pending, same, phase, rfl⟩ | ⟨rfl, elsewhere⟩
  · simp only [Boundary.Fits, phase] at fits
    obtain ⟨unattempted, _, reach, member, epoch, token, saved, _⟩ := fits
    simp only [Boundary.Fits, attempted, returned, reached]
    exact ⟨unattempted, by simp [same], reach, member, epoch, token, saved⟩
  · -- Where a registration has yet to return, it is another one that has returned.
    have unreturned (phase : ¬(after.phase = .idle ∨ ∃ pending, after.phase = .waiting pending)) :
        returns after.epoch later = returns after.epoch records := by
      rw [returned, if_neg fun same => phase (elsewhere same.symm), Nat.add_zero]
    unfold Boundary.Fits at fits ⊢
    rw [attempted, reached]
    cases phase : after.phase with
    | idle =>
        simp only [phase] at fits
        obtain ⟨reach, member, same, first, head, elsewhere⟩ := fits
        refine ⟨reach, member, same, first, by rw [same, attempted, ← same]; exact head, ?_⟩
        intro none
        apply elsewhere
        rw [same] at none ⊢
        omega
    | registering thread pending =>
        rw [unreturned (by simp [phase])]
        simpa only [phase] using fits
    | waiting pending =>
        simp only [phase] at fits ⊢
        exact ⟨fits.1, by omega, fits.2.2⟩
    | parked pending outcome =>
        rw [unreturned (by simp [phase])]
        simpa only [phase] using fits

theorem takenUp (taken : boundary.detach epoch = (some (outcome, pending), after)) :
    after.Fits later := by
  obtain ⟨same, phase, rfl⟩ := detach_eq_some_iff.1 taken
  simp only [Boundary.Fits, phase] at fits
  obtain ⟨_, reach, member, here, _, _, first⟩ := fits
  simp only [Boundary.Fits, Reach.IsPassed, reached]
  refine ⟨reach, member, here, ⟨outcome, reach.thread⟩, by rw [here, attempted]; exact first, ?_⟩
  intro none
  rw [here, returned, if_pos same.symm] at none
  omega

end Detach

end Boundary.Fits

/-- A history of one run agrees with its open registrations and with the boundary kept for it. -/
structure Account (records : List (Record Memory)) (openings : List Opening)
    (boundary? : Option (Boundary Memory)) : Prop where
  numbered : (reaches records).map Reach.epoch = List.range' 1 (epochs boundary?)
  past : ∀ reach ∈ reaches records, reach.epoch < epochs boundary? → reach.IsPassed records
  fits : ∀ boundary, boundary? = some boundary → boundary.Fits records
  first : ∀ epoch,
    crossings epoch records = ((attempts epoch records).head?.map Attempt.outcome).toList
  opened : ∀ opening ∈ openings, ∃ reach ∈ reaches records, reach.epoch = opening.epoch ∧
    reach.token = opening.token ∧ reach.thread = opening.thread
  counted : ∀ epoch, openings.countP (fun opening => decide (opening.epoch = epoch)) +
      returns epoch records =
    (reaches records).countP fun reach => decide (reach.epoch = epoch)

namespace Account

variable {records more : List (Record Memory)} {openings : List Opening}
  {boundary? after? : Option (Boundary Memory)} {run thread epoch : Nat}

theorem getElem?_epoch (account : Account records openings boundary?) {reach : Reach Memory}
    (member : reach ∈ reaches records) : (reaches records)[reach.epoch - 1]? = some reach := by
  obtain ⟨turn, bound, same⟩ := List.getElem_of_mem member
  have numbered : ((reaches records).map Reach.epoch)[turn]? = some reach.epoch := by
    simp [bound, same]
  rw [account.numbered, List.getElem?_range'] at numbered
  · have turned : turn = reach.epoch - 1 := by simp at numbered; omega
    rw [← turned, List.getElem?_eq_getElem bound, same]
  · have length := congrArg List.length account.numbered
    simp at length
    omega

theorem eq_of_epoch_eq (account : Account records openings boundary?) {reach other : Reach Memory}
    (member : reach ∈ reaches records) (otherMember : other ∈ reaches records)
    (same : reach.epoch = other.epoch) : reach = other := by
  have found := account.getElem?_epoch member
  rw [same, account.getElem?_epoch otherMember] at found
  exact (Option.some.inj found).symm

theorem epoch_bounds (account : Account records openings boundary?) {reach : Reach Memory}
    (member : reach ∈ reaches records) : 1 ≤ reach.epoch ∧ reach.epoch ≤ epochs boundary? := by
  have listed : reach.epoch ∈ (reaches records).map Reach.epoch := List.mem_map_of_mem member
  rw [account.numbered, List.mem_range'_1] at listed
  omega

/-- A boundary that was reached is past, or it is the one that is kept. -/
theorem past_or_kept (account : Account records openings boundary?) {reach : Reach Memory}
    (member : reach ∈ reaches records) : reach.epoch < epochs boundary? ∨
      ∃ boundary, boundary? = some boundary ∧ boundary.epoch = reach.epoch := by
  have bounds := account.epoch_bounds member
  rcases Nat.lt_or_eq_of_le bounds.2 with past | last
  · exact .inl past
  · cases boundary? with
    | none =>
        rw [last] at bounds
        cases bounds.1
    | some boundary => exact .inr ⟨boundary, rfl, last.symm⟩

theorem countP_epoch_le_one (account : Account records openings boundary?) (epoch : Nat) :
    ((reaches records).countP fun reach => decide (reach.epoch = epoch)) ≤ 1 := by
  have distinct : ((reaches records).map Reach.epoch).Nodup := by
    rw [account.numbered]
    exact List.nodup_range'
  have counted := List.nodup_iff_count.1 distinct epoch
  rw [List.count, List.countP_map] at counted
  exact counted

theorem reached_of_some (account : Account records openings boundary?) {boundary : Boundary Memory}
    (found : boundary? = some boundary) : ∃ reach ∈ reaches records, reach.epoch = boundary.epoch := by
  have fits := account.fits boundary found
  unfold Boundary.Fits at fits
  split at fits
  · obtain ⟨reach, member, same, _⟩ := fits
    exact ⟨reach, member, same⟩
  · obtain ⟨_, _, reach, member, same, _⟩ := fits
    exact ⟨reach, member, same⟩
  · obtain ⟨_, _, reach, member, same, _⟩ := fits
    exact ⟨reach, member, same⟩
  · obtain ⟨_, reach, member, same, _⟩ := fits
    exact ⟨reach, member, same⟩

theorem attempted_of_refused (account : Account records openings boundary?)
    (reached : ∃ reach ∈ reaches records, reach.epoch = epoch)
    (refused : boundary?.all fun boundary =>
      !(decide (boundary.epoch = epoch) && boundary.isArmed)) : attempts epoch records ≠ [] := by
  obtain ⟨reach, member, rfl⟩ := reached
  intro nothing
  rcases account.past_or_kept member with past | ⟨boundary, rfl, same⟩
  · obtain ⟨first, attempted, _⟩ := account.past reach member past
    simp [nothing] at attempted
  · have fits := account.fits boundary rfl
    rw [Option.all_some, same] at refused
    unfold Boundary.Fits at fits
    rw [same] at fits
    split at fits
    · obtain ⟨other, _, sameEpoch, first, attempted, _⟩ := fits
      rw [sameEpoch] at attempted
      simp [nothing] at attempted
    · rename_i phase
      simp [Boundary.isArmed, phase] at refused
    · rename_i phase
      simp [Boundary.isArmed, phase] at refused
    · obtain ⟨_, _, _, _, _, _, attempted⟩ := fits
      simp [nothing] at attempted

/-- A boundary as it was, or one that holds nothing under another token. -/
def Steady (boundary? after? : Option (Boundary Memory)) : Prop :=
  after? = boundary? ∨ ∃ boundary token, boundary? = some boundary ∧ boundary.phase = .idle ∧
    after? = some { boundary with token }

theorem Steady.epochs_eq (steady : Steady boundary? after?) : epochs after? = epochs boundary? := by
  rcases steady with rfl | ⟨boundary, token, rfl, _, rfl⟩ <;> rfl

theorem reaches_of_silent (silent : ∀ record ∈ more, record.isSilent = true) :
    reaches more = [] :=
  List.filterMap_eq_nil_iff.2 fun record member => (Record.of_isSilent (silent record member)).1

theorem crossings_of_silent (silent : ∀ record ∈ more, record.isSilent = true) :
    crossings epoch more = [] :=
  List.filterMap_eq_nil_iff.2 fun record member =>
    ((Record.of_isSilent (silent record member)).2 epoch).2.1

theorem returns_of_silent (silent : ∀ record ∈ more, record.isSilent = true) :
    returns epoch more = 0 :=
  List.countP_eq_zero.2 fun record member => by
    simp [((Record.of_isSilent (silent record member)).2 epoch).2.2]

theorem extend {fewer : List Opening} (account : Account records openings boundary?)
    (unreached : reaches more = []) (latest : epochs after? = epochs boundary?)
    (past : ∀ reach ∈ reaches records, reach.epoch < epochs boundary? → reach.IsPassed records →
      reach.IsPassed (records ++ more))
    (fits : ∀ boundary, after? = some boundary → boundary.Fits (records ++ more))
    (first : ∀ epoch, crossings epoch (records ++ more) =
      ((attempts epoch (records ++ more)).head?.map Attempt.outcome).toList)
    (opened : fewer ⊆ openings)
    (counted : ∀ epoch, fewer.countP (fun opening => decide (opening.epoch = epoch)) +
        returns epoch (records ++ more) =
      openings.countP (fun opening => decide (opening.epoch = epoch)) + returns epoch records) :
    Account (records ++ more) fewer after? := by
  have reachesSame : reaches (records ++ more) = reaches records := by
    rw [reaches_append, unreached, List.append_nil]
  constructor
  · rw [reachesSame, latest]
    exact account.numbered
  · intro reach member earlier
    rw [reachesSame] at member
    rw [latest] at earlier
    exact past reach member earlier (account.past reach member earlier)
  · exact fits
  · exact first
  · intro opening member
    rw [reachesSame]
    exact account.opened opening (opened member)
  · intro epoch
    rw [reachesSame, counted]
    exact account.counted epoch

theorem silent (account : Account records openings boundary?)
    (silent : ∀ record ∈ more, record.isSilent = true) (steady : Steady boundary? after?) :
    Account (records ++ more) openings after? := by
  have reachesSame : reaches (records ++ more) = reaches records := by
    rw [reaches_append, reaches_of_silent silent, List.append_nil]
  have attemptsSame (epoch : Nat) : attempts epoch (records ++ more) = attempts epoch records :=
    attempts_append_of_none fun record member =>
      ((Record.of_isSilent (silent record member)).2 epoch).1
  have returnsSame (epoch : Nat) : returns epoch (records ++ more) = returns epoch records := by
    rw [returns_append, returns_of_silent silent, Nat.add_zero]
  refine account.extend (reaches_of_silent silent) steady.epochs_eq ?_ ?_ ?_ (List.Subset.refl _) ?_
  · intro reach _ _ passed
    simpa only [Reach.IsPassed, attemptsSame, returnsSame] using passed
  · intro boundary found
    have kept : ∀ boundary : Boundary Memory, boundary.Fits records →
        boundary.Fits (records ++ more) := by
      intro boundary fits
      simpa only [Boundary.Fits, Reach.IsPassed, reachesSame, attemptsSame, returnsSame] using fits
    rcases steady with rfl | ⟨before, token, rfl, idle, rfl⟩
    · exact kept boundary (account.fits boundary found)
    · cases found
      apply kept
      have fits := account.fits before rfl
      simpa only [Boundary.Fits, idle] using fits
  · intro epoch
    rw [crossings_append, crossings_of_silent silent, List.append_nil, attemptsSame]
    exact account.first epoch
  · intro epoch
    rw [returnsSame]

theorem reach (account : Account records openings boundary?)
    (free : ∀ boundary, boundary? = some boundary → boundary.phase = .idle) {token : Token}
    {registration : Registration Memory} {pending : Stack (Frame Memory)}
    {armed : Boundary Memory} (arms : armed = (boundary?.getD { token }).arm token thread pending) :
    Account
      (records ++ [⟨run, thread, .looked token false⟩,
        ⟨run, thread, .reached armed.epoch registration token pending⟩])
      (⟨run, armed.epoch, token, thread⟩ :: openings) (some armed) := by
  have turn : armed.epoch = epochs boundary? + 1 := by
    rw [arms]
    cases boundary? <;> rfl
  have added : reaches (records ++ [⟨run, thread, .looked token false⟩,
      ⟨run, thread, .reached armed.epoch registration token pending⟩]) =
        reaches records ++ [⟨armed.epoch, registration, token, pending, thread⟩] :=
    reaches_append ..
  have attemptsSame (epoch : Nat) : attempts epoch (records ++ [⟨run, thread, .looked token false⟩,
      ⟨run, thread, .reached armed.epoch registration token pending⟩]) = attempts epoch records := by
    apply attempts_append_of_none
    simp [Record.attempt?]
  have returnsSame (epoch : Nat) : returns epoch (records ++ [⟨run, thread, .looked token false⟩,
      ⟨run, thread, .reached armed.epoch registration token pending⟩]) = returns epoch records :=
    returns_append ..
  have unreached : ∀ reach ∈ reaches records, reach.epoch ≠ armed.epoch := by
    intro reach member same
    have bounds := account.epoch_bounds member
    omega
  constructor
  · have one : epochs (some armed) = epochs boundary? + 1 := turn
    rw [added, List.map_append, account.numbered, one, List.range'_1_concat]
    simp [turn, Nat.add_comm]
  · intro reach member earlier
    rw [added, List.mem_append, List.mem_singleton] at member
    simp only [Reach.IsPassed, attemptsSame, returnsSame]
    rcases member with old | rfl
    · rcases account.past_or_kept old with past | ⟨boundary, found, same⟩
      · exact account.past reach old past
      · have fits := account.fits boundary found
        simp only [Boundary.Fits, free boundary found] at fits
        obtain ⟨other, otherMember, otherEpoch, passed⟩ := fits
        rw [account.eq_of_epoch_eq old otherMember (same.symm.trans otherEpoch.symm)]
        exact passed
    · simp [epochs] at earlier
  · intro boundary found
    cases found
    have phase : armed.phase = .registering thread pending := by rw [arms]; rfl
    have tokenSame : armed.token = token := by rw [arms]; rfl
    simp only [Boundary.Fits, phase]
    refine ⟨?_, ?_, ?_⟩
    · rw [attemptsSame]
      exact attempts_of_unreached unreached
    · rw [returnsSame]
      have counted := account.counted armed.epoch
      have none : (reaches records).countP (fun reach => decide (reach.epoch = armed.epoch)) = 0 :=
        List.countP_eq_zero.2 (by simpa using unreached)
      omega
    · rw [added]
      exact ⟨_, List.mem_append_right _ (.head _), rfl, tokenSame.symm, rfl, rfl⟩
  · intro epoch
    rw [attemptsSame, crossings_append, account.first epoch]
    exact List.append_nil _
  · intro opening member
    rw [added]
    rcases List.mem_cons.1 member with rfl | old
    · exact ⟨_, List.mem_append_right _ (.head _), rfl, rfl, rfl⟩
    · obtain ⟨reach, reached, agrees⟩ := account.opened opening old
      exact ⟨reach, List.mem_append_left _ reached, agrees⟩
  · intro epoch
    have counted := account.counted epoch
    rw [returnsSame, added]
    simp only [List.countP_append, List.countP_cons, List.countP_nil]
    omega

theorem ignore (account : Account records openings boundary?) {tried : Nat}
    {outcome : Outcome Value} {maker : Maker}
    (refused : boundary?.all fun boundary =>
      !(decide (boundary.epoch = tried) && boundary.isArmed)) :
    Account (records ++ [⟨run, thread, .attempted tried outcome maker⟩]) openings boundary? := by
  have reachesSame : reaches (records ++ [⟨run, thread, .attempted tried outcome maker⟩]) =
      reaches records := by
    rw [reaches_append]
    exact List.append_nil _
  have returnsSame (epoch : Nat) :
      returns epoch (records ++ [⟨run, thread, .attempted tried outcome maker⟩]) =
        returns epoch records :=
    returns_append ..
  -- A boundary that was reached has been attempted before, if it is the one that is tried.
  have head (epoch : Nat) :
      (attempts epoch (records ++ [⟨run, thread, .attempted tried outcome maker⟩])).head? =
        (attempts epoch records).head? := by
    by_cases reached : ∃ reach ∈ reaches records, reach.epoch = epoch
    · rw [attempts_append_of_reached reached]
      by_cases same : tried = epoch
      · subst same
        have attempted := account.attempted_of_refused reached refused
        cases earlier : attempts tried records with
        | nil => exact absurd earlier attempted
        | cons => rfl
      · simp [Record.attempt?, same]
    · have unreached : ∀ reach ∈ reaches records, reach.epoch ≠ epoch := fun reach member same =>
        reached ⟨reach, member, same⟩
      rw [attempts_of_unreached unreached, attempts_of_unreached (by rwa [reachesSame])]
  have nil_iff (epoch : Nat) :
      attempts epoch (records ++ [⟨run, thread, .attempted tried outcome maker⟩]) = [] ↔
        attempts epoch records = [] := by
    rw [← List.head?_eq_none_iff, head, List.head?_eq_none_iff]
  refine account.extend rfl rfl ?_ ?_ ?_ (List.Subset.refl _) ?_
  · intro reach _ _ passed
    simpa only [Reach.IsPassed, head, returnsSame] using passed
  · intro boundary found
    have fits := account.fits boundary found
    simpa only [Boundary.Fits, Reach.IsPassed, reachesSame, returnsSame, nil_iff, head] using fits
  · intro epoch
    rw [head, crossings_append, account.first epoch]
    exact List.append_nil _
  · intro epoch
    rw [returnsSame]

theorem attempts_of_armed (account : Account records openings boundary?)
    {boundary : Boundary Memory} (found : boundary? = some boundary)
    (armed : boundary.isArmed = true) : attempts boundary.epoch records = [] := by
  have fits := account.fits boundary found
  unfold Boundary.Fits at fits
  unfold Boundary.isArmed at armed
  split at fits
  · rename_i phase
    simp [phase] at armed
  · exact fits.1
  · exact fits.1
  · rename_i phase
    simp [phase] at armed

theorem accept (account : Account records openings boundary?) {boundary after : Boundary Memory}
    {outcome : Outcome Value} {maker : Maker} (found : boundary? = some boundary)
    (armed : boundary.isArmed = true) (epochSame : after.epoch = boundary.epoch)
    (added : [⟨run, thread, .attempted boundary.epoch outcome maker⟩,
      ⟨run, thread, .crossed boundary.epoch outcome⟩] = more)
    (fits : attempts boundary.epoch (records ++ more) = [⟨outcome, thread⟩] →
      reaches (records ++ more) = reaches records →
      returns boundary.epoch (records ++ more) = returns boundary.epoch records →
      after.Fits (records ++ more)) :
    Account (records ++ more) openings (some after) := by
  have reachesSame : reaches (records ++ more) = reaches records := by
    rw [reaches_append, ← added]
    exact List.append_nil _
  have returnsSame (epoch : Nat) : returns epoch (records ++ more) = returns epoch records := by
    rw [returns_append, ← added]
    rfl
  have reached := account.reached_of_some found
  have unattempted := account.attempts_of_armed found armed
  have attemptsHere : attempts boundary.epoch (records ++ more) = [⟨outcome, thread⟩] := by
    rw [attempts_append_of_reached reached, unattempted, ← added]
    simp [Record.attempt?]
  have attemptsSame (epoch : Nat) (different : boundary.epoch ≠ epoch) :
      attempts epoch (records ++ more) = attempts epoch records := by
    apply attempts_append_of_none
    simp [← added, Record.attempt?, different]
  have latest : epochs (some after) = epochs boundary? := by
    rw [found]
    exact epochSame
  refine account.extend (by rw [← added]; rfl) latest ?_ ?_ ?_ (List.Subset.refl _) ?_
  · intro reach _ earlier passed
    have different : boundary.epoch ≠ reach.epoch := by
      rw [found] at earlier
      exact Nat.ne_of_gt earlier
    simpa only [Reach.IsPassed, attemptsSame _ different, returnsSame] using passed
  · intro other foundOther
    cases foundOther
    exact fits attemptsHere reachesSame (returnsSame boundary.epoch)
  · intro epoch
    rw [crossings_append, account.first epoch]
    by_cases same : boundary.epoch = epoch
    · subst same
      rw [attemptsHere, unattempted, ← added]
      simp [crossings, List.filterMap_cons, Record.crossing?]
    · rw [attemptsSame epoch same, ← added]
      simp [crossings, List.filterMap_cons, Record.crossing?, same]
  · intro epoch
    rw [returnsSame]

theorem returned {opening : Opening} (account : Account records (opening :: openings) boundary?)
    {boundary after : Boundary Memory} (found : boundary? = some boundary)
    (epochSame : after.epoch = boundary.epoch)
    (added : [⟨run, thread, .returned opening.epoch⟩] = more)
    (fits : attempts boundary.epoch (records ++ more) = attempts boundary.epoch records →
      reaches (records ++ more) = reaches records →
      returns boundary.epoch (records ++ more) = returns boundary.epoch records +
        (if opening.epoch = boundary.epoch then 1 else 0) →
      after.Fits (records ++ more)) :
    Account (records ++ more) openings (some after) := by
  have reachesSame : reaches (records ++ more) = reaches records := by
    rw [reaches_append, ← added]
    exact List.append_nil _
  have attemptsSame (epoch : Nat) : attempts epoch (records ++ more) = attempts epoch records := by
    apply attempts_append_of_none
    simp [← added, Record.attempt?]
  have returnsMore (epoch : Nat) : returns epoch (records ++ more) =
      returns epoch records + (if opening.epoch = epoch then 1 else 0) := by
    rw [returns_append, ← added]
    simp [returns, Record.isReturn, List.countP_cons]
  have latest : epochs (some after) = epochs boundary? := by
    rw [found]
    exact epochSame
  refine account.extend (by rw [← added]; rfl) latest ?_ ?_ ?_ (List.subset_cons_self _ _) ?_
  · rintro reach _ _ ⟨first, attempted, elsewhere⟩
    rw [Reach.IsPassed, attemptsSame, returnsMore]
    exact ⟨first, attempted, fun none => elsewhere (by omega)⟩
  · intro other foundOther
    cases foundOther
    exact fits (attemptsSame _) reachesSame (returnsMore _)
  · intro epoch
    rw [crossings_append, account.first epoch, attemptsSame, ← added]
    exact List.append_nil _
  · intro epoch
    rw [returnsMore, List.countP_cons]
    simp only [decide_eq_true_eq]
    omega

end Account

def openingsOf (run : Nat) (openings : List Opening) : List Opening :=
  openings.filter fun opening => decide (opening.run = run)

theorem openingsOf_cons_same (opening : Opening) (openings : List Opening) :
    openingsOf opening.run (opening :: openings) = opening :: openingsOf opening.run openings := by
  simp [openingsOf]

theorem openingsOf_cons_other {opening : Opening} {other : Nat} (different : opening.run ≠ other)
    (openings : List Opening) :
    openingsOf other (opening :: openings) = openingsOf other openings := by
  simp [openingsOf, different]

/-- The history agrees with the boundaries of all runs. -/
def Ledger (history : List (Record Memory)) (situation : Situation Memory) : Prop :=
  ∀ run, Account (recordsOf run history) (openingsOf run situation.openings)
    (boundaryOf situation.runs run)

section Change

variable {history : List (Record Memory)} {situation after : Situation Memory} {run other : Nat}
  {runs kept : Array (Run Memory)} {boundary : Boundary Memory}

theorem recordsOf_append (run : Nat) (history more : List (Record Memory)) :
    recordsOf run (history ++ more) = recordsOf run history ++ recordsOf run more :=
  List.filter_append ..

theorem recordsOf_recorded (run thread : Nat) (happenings : List (Happening Memory)) :
    recordsOf run (recorded thread (happenings.map fun happening => (run, happening))) =
      happenings.map fun happening => Record.mk run thread happening := by
  rw [recorded, List.map_map]
  apply List.filter_eq_self.2
  intro record member
  obtain ⟨happening, _, rfl⟩ := List.mem_map.1 member
  exact decide_eq_true rfl

theorem recordsOf_recorded_other (different : run ≠ other) (thread : Nat)
    (happenings : List (Happening Memory)) :
    recordsOf other (recorded thread (happenings.map fun happening => (run, happening))) = [] := by
  simp [recordsOf, recorded, different]

theorem boundaryOf_withBoundary (found : ∃ entry, runs[run]? = some entry) :
    boundaryOf (withBoundary runs run boundary) run = some boundary := by
  obtain ⟨entry, located⟩ := found
  simp [boundaryOf, withBoundary, Array.getElem?_modify, located]

theorem boundaryOf_elsewhere (changes : OnlyChanges run runs kept) (different : run ≠ other) :
    boundaryOf kept other = boundaryOf runs other := by
  rw [boundaryOf, changes.elsewhere other different, boundaryOf]

theorem idle_of_hostStandings (nothing : hostStandings runs run = [])
    (found : boundaryOf runs run = some boundary) : boundary.phase = .idle := by
  obtain ⟨entry, located, reached⟩ := entry_of_boundaryOf found
  rw [hostStandings_of_some located, Run.standings, reached, List.append_eq_nil_iff] at nothing
  have empty := nothing.2
  simp only [Option.toList_some, List.flatMap_singleton, Boundary.standings] at empty
  split at empty
  · assumption
  · cases empty
  · cases empty
  · cases empty

theorem steady_of_retokened (retokened : Retokened run runs kept)
    (nothing : hostStandings runs run = []) :
    Account.Steady (boundaryOf runs run) (boundaryOf kept run) := by
  rcases retokened with rfl | ⟨token, rfl⟩
  · exact .inl rfl
  · cases found : boundaryOf runs run with
    | none =>
        left
        cases located : runs[run]? <;> simp_all [boundaryOf, Array.getElem?_modify]
    | some boundary =>
        right
        refine ⟨boundary, token, rfl, idle_of_hostStandings nothing found, ?_⟩
        obtain ⟨entry, located, reached⟩ := entry_of_boundaryOf found
        simp [boundaryOf, Array.getElem?_modify, located, reached]

namespace Ledger

theorem change (ledger : Ledger history situation) (run : Nat)
    (happenings : List (Happening Memory)) {thread : Nat}
    (boundaries : ∀ other, run ≠ other →
      boundaryOf after.runs other = boundaryOf situation.runs other)
    (openings : ∀ other, run ≠ other →
      openingsOf other after.openings = openingsOf other situation.openings)
    (account : Account (recordsOf run history) (openingsOf run situation.openings)
        (boundaryOf situation.runs run) →
      Account (recordsOf run history ++ happenings.map fun happening => Record.mk run thread happening)
        (openingsOf run after.openings) (boundaryOf after.runs run)) :
    Ledger (history ++ recorded thread (happenings.map fun happening => (run, happening))) after := by
  intro other
  rw [recordsOf_append]
  by_cases same : run = other
  · subst same
    rw [recordsOf_recorded]
    exact account (ledger run)
  · rw [recordsOf_recorded_other same, List.append_nil, boundaries other same, openings other same]
    exact ledger other

theorem silent (ledger : Ledger history situation) (run : Nat)
    (happenings : List (Happening Memory)) {thread : Nat}
    (silent : ∀ happening ∈ happenings, (Record.mk run thread happening).isSilent = true)
    (boundaries : ∀ other, run ≠ other →
      boundaryOf after.runs other = boundaryOf situation.runs other)
    (openings : after.openings = situation.openings)
    (steady : Account.Steady (boundaryOf situation.runs run) (boundaryOf after.runs run)) :
    Ledger (history ++ recorded thread (happenings.map fun happening => (run, happening))) after := by
  apply ledger.change run happenings boundaries
  · intro other _
    rw [openings]
  · intro account
    rw [openings]
    refine account.silent ?_ steady
    intro record member
    obtain ⟨happening, listed, rfl⟩ := List.mem_map.1 member
    exact silent happening listed

theorem begin (ledger : Ledger history situation) {thread : Nat} {plan : Plan Memory}
    {pending : Stack (Frame Memory)} {token : Token} {receiver : Receiver Memory}
    (openings : after.openings = situation.openings)
    (runs : after.runs = situation.runs.push { receiver }) :
    Ledger (history ++
      recorded thread [(situation.runs.size, .started plan pending token receiver)]) after := by
  apply ledger.silent situation.runs.size [.started plan pending token receiver]
  · intro happening member
    rw [List.mem_singleton.1 member]
    rfl
  · intro other different
    simp [boundaryOf, runs, Array.getElem?_push, Ne.symm different]
  · exact openings
  · left
    simp [boundaryOf, runs]

theorem accept (ledger : Ledger history situation) {thread : Nat} {completer : Completer}
    {outcome : Outcome Value} {maker : Maker} {boundary left : Boundary Memory}
    (found : boundaryOf situation.runs completer.run = some boundary)
    (runs : after.runs = withBoundary situation.runs completer.run left)
    (same : boundary.epoch = completer.epoch) (armed : boundary.isArmed = true)
    (epochSame : left.epoch = boundary.epoch)
    (fits : ∀ records, boundary.Fits (recordsOf completer.run history) →
      attempts boundary.epoch records = [⟨outcome, thread⟩] →
      reaches records = reaches (recordsOf completer.run history) →
      returns boundary.epoch records = returns boundary.epoch (recordsOf completer.run history) →
      left.Fits records)
    (openings : after.openings = situation.openings) :
    Ledger (history ++ recorded thread [(completer.run, .attempted completer.epoch outcome maker),
      (completer.run, .crossed completer.epoch outcome)]) after := by
  apply ledger.change completer.run [.attempted completer.epoch outcome maker,
    .crossed completer.epoch outcome]
  · intro other different
    rw [runs]
    exact boundaryOf_elsewhere .withBoundary different
  · intro other _
    rw [openings]
  · intro account
    obtain ⟨entry, located, _⟩ := entry_of_boundaryOf found
    rw [openings, runs, boundaryOf_withBoundary ⟨entry, located⟩, ← same]
    exact account.accept found armed epochSame rfl (fits _ (account.fits boundary found))

theorem returned {opening : Opening} {thread : Nat}
    {boundary left : Boundary Memory} (ledger : Ledger history situation)
    (found : boundaryOf situation.runs opening.run = some boundary)
    (runs : after.runs = withBoundary situation.runs opening.run left)
    (epochSame : left.epoch = boundary.epoch)
    (fits : ∀ records, boundary.Fits (recordsOf opening.run history) →
      attempts boundary.epoch records =
        attempts boundary.epoch (recordsOf opening.run history) →
      reaches records = reaches (recordsOf opening.run history) →
      returns boundary.epoch records = returns boundary.epoch (recordsOf opening.run history) +
        (if opening.epoch = boundary.epoch then 1 else 0) →
      left.Fits records)
    (openings : situation.openings = opening :: after.openings) :
    Ledger (history ++ recorded thread [(opening.run, .returned opening.epoch)]) after := by
  apply ledger.change opening.run [.returned opening.epoch]
  · intro other different
    rw [runs]
    exact boundaryOf_elsewhere .withBoundary different
  · intro other different
    rw [openings, openingsOf_cons_other different]
  · intro account
    obtain ⟨entry, located, _⟩ := entry_of_boundaryOf found
    rw [openings, openingsOf_cons_same] at account
    rw [runs, boundaryOf_withBoundary ⟨entry, located⟩]
    exact account.returned found epochSame rfl (fits _ (account.fits boundary found))

theorem isSilent_of_isInner {run thread : Nat} {happening : Happening Memory}
    (inner : happening.isInner = true) : (Record.mk run thread happening).isSilent = true := by
  cases happening <;> first | rfl | cases inner

/-- Every effect keeps the accounts. -/
theorem effect (ledger : Ledger history situation) (tracked : Tracked history situation)
    {thread : Nat} {happenings : List (Nat × Happening Memory)}
    (effect : Effect thread situation happenings after) :
    Ledger (history ++ recorded thread happenings) after := by
  cases effect with
  | @loop run standing next happenings loops openings due telling runs kept warnings leads inner retokened =>
      have single := (tracked run).eq_singleton
        (List.mem_append_left _ (by rw [loopStandings_cons_same]; exact .head _))
      apply ledger.silent run happenings
      · intro happening member
        exact isSilent_of_isInner (List.all_eq_true.1 inner happening member)
      · intro other different
        exact boundaryOf_elsewhere (.of_retokened retokened) different
      · rfl
      · exact steady_of_retokened retokened (standings_cons_eq_singleton single).2
  | @reach run registration pending token boundary loops openings due telling runs warnings armed =>
      have single := (tracked run).eq_singleton
        (List.mem_append_left _ (by rw [loopStandings_cons_same]; exact .head _))
      have free := (standings_cons_eq_singleton single).2
      apply ledger.change run [.looked token false,
        .reached boundary.epoch registration token pending]
      · intro other different
        exact boundaryOf_elsewhere .withBoundary different
      · intro other different
        exact openingsOf_cons_other different openings
      · intro account
        have first := openingsOf_cons_same ⟨run, boundary.epoch, token, thread⟩ openings
        rw [boundaryOf_withBoundary (tracked.entry_of_singleton single), first]
        exact account.reach (fun _ found => idle_of_hostStandings free found) armed
  | @start plan pending token receiver loops openings due telling runs warnings direct =>
      exact ledger.begin rfl rfl
  | @launch nested loops openings before behind telling runs warnings => exact ledger.begin rfl rfl
  | lose => exact ledger.silent 0 [] nofun (fun _ _ => rfl) rfl (.inl rfl)
  | @ignore completer outcome maker loops openings due telling rest runs warnings refused takes =>
      exact ledger.change completer.run [.attempted completer.epoch outcome maker]
        (fun _ _ => rfl) (fun _ _ => rfl) fun account => account.ignore refused
  | @park completer outcome maker boundary parked loops openings due telling rest runs warnings found
      accepted takes =>
      obtain ⟨same, pending, phase, rfl⟩ := Boundary.complete_eq_parked_iff.1 accepted
      refine ledger.accept found rfl same ?_ rfl (fun _ fits => fits.parked accepted) rfl
      simp [Boundary.isArmed, phase]
  | @resume completer outcome maker boundary resumed pending loops openings due telling rest runs warnings
      found accepted takes =>
      obtain ⟨same, armed, rfl⟩ := Boundary.complete_eq_resumed_iff.1 accepted
      refine ledger.accept found rfl same ?_ rfl (fun _ fits => fits.resumed accepted) rfl
      rcases armed with ⟨registrar, phase, _⟩ | phase <;> simp [Boundary.isArmed, phase]
  | @wait opening boundary left loops openings due telling runs warnings found here waits =>
      have epochSame : left.epoch = boundary.epoch := by
        rcases Boundary.detach_eq_none waits with ⟨_, _, _, _, rfl⟩ | ⟨rfl, _⟩ <;> rfl
      exact ledger.returned found rfl epochSame
        (fun _ fits attempted reached returned => fits.waits attempted reached returned waits) rfl
  | @takeUp opening boundary left outcome pending loops openings due telling runs warnings found here
      taken =>
      obtain ⟨_, _, rfl⟩ := Boundary.detach_eq_some_iff.1 taken
      exact ledger.returned found rfl rfl
        (fun _ fits attempted reached returned => fits.takenUp attempted reached returned taken) rfl
  | @tell run outcome entry loops openings due telling runs warnings found untold =>
      apply ledger.silent run [.told outcome]
      · intro happening member
        rw [List.mem_singleton.1 member]
        rfl
      · intro other different
        exact boundaryOf_elsewhere .withOutcome different
      · rfl
      · left
        simp [boundaryOf, withOutcome, Array.getElem?_modify, found]

end Ledger

end Change

end Trampoline
