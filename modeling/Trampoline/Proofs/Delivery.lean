import Trampoline.Proofs.Reachable
import Trampoline.Proofs.Showing

/-!
A run tells its outcome once, or can still be resumed.

Whatever the threads do, a run never tells a second outcome.  As long as nothing is open for it, it
has either told one and its boundary is not armed, or it has told none and waits at the last
boundary that it reached, with the frames and the token that it had there.
-/

namespace Trampoline

variable {Memory : Type} {last : Form}

def Happening.told? : Happening Memory → Option (Outcome Value)
  | .told outcome => some outcome
  | _ => none

def tellings (run : Nat) (history : List (Record Memory)) : List (Outcome Value) :=
  (course run history).filterMap Happening.told?

theorem mem_tellings_iff {run : Nat} {history : List (Record Memory)} {outcome : Outcome Value} :
    outcome ∈ tellings run history ↔ .told outcome ∈ course run history := by
  rw [tellings, List.mem_filterMap]
  constructor
  · rintro ⟨happening, member, told⟩
    cases happening <;> cases told
    exact member
  · intro member
    exact ⟨_, member, rfl⟩

def Machine.Tells (machine : Machine Memory last) (run : Nat) (outcome : Outcome Value) : Prop :=
  ∃ callers entry, machine.focus = .finish run outcome callers ∧
    machine.host.runs[run]? = some entry ∧ entry.outcome = none ∧
    machine.next.focus =
      match entry.receiver with
      | .code receive => .code (receive outcome) (.push .telling callers)
      | .forward completer => .complete completer outcome (.push .telling callers)
      | .nobody => .code Code.unit (.push .telling callers)

/-- An outcome counts as told exactly where the receiver is called with it. -/
theorem Machine.told_iff {machine : Machine Memory last} {run : Nat} {outcome : Outcome Value} :
    (run, .told outcome) ∈ machine.happenings ↔ machine.Tells run outcome := by
  constructor
  · intro told
    obtain ⟨focus, host⟩ := machine
    obtain ⟨callers, rfl, untold⟩ := (shows_of_old told (by simp)).told
    cases found : host.runs[run]? with
    | none => simp [found] at untold
    | some entry =>
        obtain ⟨receiver, earlier?, boundary⟩ := entry
        obtain rfl : earlier? = none := by simpa [found] using untold
        refine ⟨callers, _, rfl, found, rfl, ?_⟩
        simp only [next, finish, found, Option.isSome_none]
        cases receiver <;> rfl
  · rintro ⟨callers, entry, focus, found, untold, _⟩
    refine List.mem_append_left _ ?_
    simp [focus, Focus.happenings, found, untold]

/-- Whether no worker has a loop or a registration of a run open. -/
def Pool.rests (pool : Pool Memory) (run : Nat) : Bool :=
  pool.workers.all fun worker =>
    (worker.focus.loops.all fun loop => loop.1 != run) &&
      (worker.focus.openings worker.thread.id).all fun opening => opening.run != run

/-- A run has told an outcome and nothing can resume it. -/
structure Chronicle.Delivered (chronicle : Chronicle Memory) (run : Nat) : Prop where
  once : (tellings run chronicle.history).length = 1
  disarmed : ∀ boundary, boundaryOf chronicle.pool.host.runs run = some boundary →
    boundary.isArmed = false

/-- A run has told nothing and waits at its last boundary, as it reached it. -/
structure Chronicle.Resumable (chronicle : Chronicle Memory) (run : Nat) : Prop where
  untold : tellings run chronicle.history = []
  waits : ∃ reach, (reaches (recordsOf run chronicle.history)).getLast? = some reach ∧
    boundaryOf chronicle.pool.host.runs run =
      some { epoch := reach.epoch, token := reach.token, phase := .waiting reach.pending }

theorem Chronicle.Resumable.stands {chronicle : Chronicle Memory} {run : Nat}
    (resumable : chronicle.Resumable run) {standing : Standing Memory}
    (single : chronicle.pool.situation.standings run = [standing]) :
    ∃ reach : Reach Memory, boundaryOf chronicle.pool.host.runs run =
        some { epoch := reach.epoch, token := reach.token, phase := .waiting reach.pending } ∧
      standing = .suspended reach.epoch reach.pending.toList reach.token := by
  obtain ⟨reach, _, waits⟩ := resumable.waits
  have listed : Standing.suspended reach.epoch reach.pending.toList reach.token ∈
      chronicle.pool.situation.standings run := mem_standings_of_boundary waits rfl
  rw [single] at listed
  exact ⟨reach, waits, (List.mem_singleton.1 listed).symm⟩

theorem Boundary.isArmed_of_standings_nil {boundary : Boundary Memory}
    (nothing : boundary.standings = []) : boundary.isArmed = false := by
  unfold standings at nothing
  unfold isArmed
  split at nothing <;> simp_all

namespace Standing

def outcome? : Standing Memory → Option (Outcome Value)
  | .ended outcome => some outcome
  | _ => none

variable {standing next goal : Standing Memory} {happenings : List (Happening Memory)} {count : Nat}

theorem eq_ended {outcome : Outcome Value} (ended : standing.outcome? = some outcome) :
    standing = .ended outcome := by
  cases standing <;> cases ended
  rfl

theorem outcome?_after (outcome : Outcome Value) (pending : List (Frame Memory)) (token : Token) :
    (after outcome pending token).outcome? = none := by
  cases outcome <;> rfl

theorem Step.tellings (step : Step standing happenings next) :
    happenings.filterMap Happening.told? = next.outcome?.toList := by
  cases step with
  | cross => rw [outcome?_after]; rfl
  | _ => rfl

theorem Path.tellings (path : Path count standing happenings goal)
    (running : standing.outcome? = none) :
    happenings.filterMap Happening.told? = goal.outcome?.toList := by
  induction path with
  | done => rw [running]; rfl
  | @step count standing next goal happenings rest taken path inductionHypothesis =>
      rw [List.filterMap_append, taken.tellings]
      cases ended : next.outcome? with
      | none => exact inductionHypothesis ended
      | some outcome =>
          cases next with
          | ended told =>
              obtain ⟨rfl, rfl⟩ := path.of_ended
              cases ended
              rfl
          | _ => cases ended

end Standing

namespace Accounts

variable {receiver? : Option (Receiver Memory)} {happenings : List (Happening Memory)}
  {standings : List (Standing Memory)} {standing : Standing Memory}

theorem tellings_eq (accounts : Accounts receiver? happenings [standing]) :
    happenings.filterMap Happening.told? = standing.outcome?.toList := by
  cases accounts with
  | born leads =>
      obtain ⟨count, path⟩ := leads
      exact path.tellings rfl

theorem exists_singleton {receiver : Receiver Memory}
    (accounts : Accounts (some receiver) happenings standings) :
    ∃ standing, standings = [standing] := by
  cases accounts with
  | born leads => exact ⟨_, rfl⟩

theorem tellings_length_le_one (accounts : Accounts receiver? happenings standings) :
    (happenings.filterMap Happening.told?).length ≤ 1 := by
  cases accounts with
  | unborn => exact Nat.zero_le 1
  | born leads =>
      rw [(Accounts.born leads : Accounts (some _) _ _).tellings_eq]
      exact Option.length_toList_le

end Accounts

/-- What has happened to a run since it was started leads to the one place where it stands. -/
theorem Tracked.leads_of_started {history : List (Record Memory)} {situation : Situation Memory}
    (tracked : Tracked history situation) {run : Nat} {plan : Plan Memory}
    {pending : Stack (Frame Memory)} {token : Token} {receiver : Receiver Memory}
    (started : (course run history).head? = some (.started plan pending token receiver)) :
    ∃ happenings standing,
      course run history = .started plan pending token receiver :: happenings ∧
      Standing.Leads (.iterating plan pending.toList token) happenings standing ∧
      situation.standings run = [standing] ∧ tellings run history = standing.outcome?.toList := by
  have accounts := tracked run
  have told {standing : Standing Memory} (single : situation.standings run = [standing]) :
      tellings run history = standing.outcome?.toList := by
    rw [single] at accounts
    exact accounts.tellings_eq
  generalize situation.standings run = standings at accounts told ⊢
  generalize receiverOf situation.runs run = receiver? at accounts
  generalize course run history = done at accounts started ⊢
  cases accounts with
  | unborn => cases started
  | born leads =>
      cases started
      exact ⟨_, _, rfl, leads, rfl, told rfl⟩

section Rests

variable {pool : Pool Memory} {run : Nat}

theorem loopStandings_of_rests (rests : pool.rests run = true) :
    loopStandings pool.situation.loops run = [] := by
  apply List.filterMap_eq_nil_iff.2
  intro loop member
  obtain ⟨worker, here, open_⟩ := List.mem_flatMap.1 member
  have quiet := List.all_eq_true.1 rests worker here
  rw [Bool.and_eq_true] at quiet
  have other := List.all_eq_true.1 quiet.1 loop open_
  exact if_neg (by simpa using other)

theorem openingsOf_of_rests (rests : pool.rests run = true) :
    openingsOf run pool.situation.openings = [] := by
  apply List.filter_eq_nil_iff.2
  intro opening member
  obtain ⟨worker, here, open_⟩ := List.mem_flatMap.1 member
  have quiet := List.all_eq_true.1 rests worker here
  rw [Bool.and_eq_true] at quiet
  have other := List.all_eq_true.1 quiet.2 opening open_
  simpa using other

end Rests

namespace Account

variable {records : List (Record Memory)} {boundary : Boundary Memory}

theorem getLast?_reaches {openings : List Opening}
    (account : Account records openings (some boundary)) {reach : Reach Memory}
    (member : reach ∈ reaches records) (latest : reach.epoch = boundary.epoch) :
    (reaches records).getLast? = some reach := by
  have length := congrArg List.length account.numbered
  rw [List.length_map, List.length_range', epochs, Option.map_some, Option.getD_some] at length
  rw [List.getLast?_eq_getElem?, length, ← latest]
  exact account.getElem?_epoch member

theorem idle_or_waits (account : Account records [] (some boundary)) :
    boundary.phase = .idle ∨ ∃ reach, (reaches records).getLast? = some reach ∧
      boundary = { epoch := reach.epoch, token := reach.token, phase := .waiting reach.pending } := by
  have fits := account.fits boundary rfl
  -- The registration of the last boundary has returned.
  have returned (reach : Reach Memory) (member : reach ∈ reaches records)
      (same : reach.epoch = boundary.epoch) : returns boundary.epoch records ≠ 0 := by
    have counted := account.counted boundary.epoch
    have positive : 0 < (reaches records).countP fun reach => decide (reach.epoch = boundary.epoch) :=
      List.countP_pos_iff.2 ⟨reach, member, decide_eq_true same⟩
    simp only [List.countP_nil] at counted
    omega
  obtain ⟨epoch, token, phase⟩ := boundary
  cases phase with
  | idle => exact .inl rfl
  | registering thread pending =>
      obtain ⟨_, unreturned, reach, member, same, _⟩ := fits
      exact absurd unreturned (returned reach member same)
  | parked pending outcome =>
      obtain ⟨unreturned, reach, member, same, _⟩ := fits
      exact absurd unreturned (returned reach member same)
  | waiting pending =>
      obtain ⟨_, _, reach, member, rfl, rfl, rfl⟩ := fits
      exact .inr ⟨reach, account.getLast?_reaches member rfl, rfl⟩

end Account

/-- Where nothing is open for a run, it has ended or waits. -/
theorem Chronicle.delivered_or_resumable {chronicle : Chronicle Memory} {run : Nat}
    (tracked : Tracked chronicle.history chronicle.pool.situation)
    (ledger : Ledger chronicle.history chronicle.pool.situation)
    (rests : chronicle.pool.rests run = true) {entry : Run Memory}
    (found : chronicle.pool.host.runs[run]? = some entry) :
    chronicle.Delivered run ∨ chronicle.Resumable run := by
  have accounts := tracked run
  have account := ledger run
  have kept : boundaryOf chronicle.pool.host.runs run = entry.boundary := by
    simp [boundaryOf, found]
  have known : receiverOf chronicle.pool.situation.runs run = some entry.receiver := by
    rw [receiverOf]
    exact congrArg (Option.map Run.receiver) found
  have standings : chronicle.pool.situation.standings run = entry.standings := by
    rw [Situation.standings, loopStandings_of_rests rests]
    exact hostStandings_of_some found
  have boundaries : boundaryOf chronicle.pool.situation.runs run = entry.boundary := kept
  rw [openingsOf_of_rests rests, boundaries] at account
  rw [known, standings] at accounts
  obtain ⟨standing, single⟩ := accounts.exists_singleton
  rw [single] at accounts
  have told := accounts.tellings_eq
  rw [Run.standings] at single
  cases ended : entry.outcome with
  | some outcome =>
      left
      rw [ended, Option.toList_some, List.map_singleton, List.singleton_append,
        List.cons.injEq] at single
      obtain ⟨rfl, nothing⟩ := single
      constructor
      · rw [tellings, told]
        rfl
      · intro boundary reached
        rw [kept] at reached
        rw [reached, Option.toList_some, List.flatMap_singleton] at nothing
        exact Boundary.isArmed_of_standings_nil nothing
  | none =>
      right
      rw [ended, Option.toList_none, List.map_nil, List.nil_append] at single
      cases reached : entry.boundary with
      | none =>
          rw [reached] at single
          cases single
      | some boundary =>
          rw [reached, Option.toList_some, List.flatMap_singleton] at single
          rw [reached] at account
          rcases account.idle_or_waits with idle | ⟨reach, last, rfl⟩
          · rw [Boundary.standings, idle] at single
            cases single
          · cases single
            exact ⟨told, reach, last, by rw [kept, reached]⟩

/-- A run calls its receiver at most once, in one move; and while nothing is open for it, either it
has called it and nothing can resume it, or it has not and waits at its last boundary. -/
structure Chronicle.Delivers (chronicle : Chronicle Memory) (run : Nat) : Prop where
  once : (tellings run chronicle.history).length ≤ 1
  told : ∀ worker ∈ chronicle.pool.workers, ∀ outcome,
    let machine := worker.machine chronicle.pool.host
    (run, .told outcome) ∈ machine.happenings ↔ machine.Tells run outcome
  rests : chronicle.pool.rests run = true →
    (chronicle.Delivered run ∨ chronicle.Resumable run) ∧
      ¬(chronicle.Delivered run ∧ chronicle.Resumable run)

theorem Pool.delivers_chronicle (memory : Memory)
    (codes : List (Option String × Code Memory .unit)) (schedule : List Nat) {run : Nat}
    (started : run < ((Pool.opening memory codes).chronicle schedule).pool.host.runs.size) :
    ((Pool.opening memory codes).chronicle schedule).Delivers run := by
  have tracked := Pool.tracked_chronicle memory codes schedule
  have ledger := Pool.ledger_chronicle memory codes schedule
  generalize (Pool.opening memory codes).chronicle schedule = chronicle at *
  constructor
  case once => exact (tracked run).tellings_length_le_one
  case told => exact fun _ _ _ => Machine.told_iff
  case rests =>
    intro rests
    constructor
    · have found : chronicle.pool.host.runs[run]? = some chronicle.pool.host.runs[run] :=
        Array.getElem?_eq_getElem started
      exact Chronicle.delivered_or_resumable tracked ledger rests found
    · rintro ⟨delivered, resumable⟩
      have once := delivered.once
      rw [resumable.untold] at once
      cases once

end Trampoline
