import Mathlib
import Trampoline.Proofs.Exclusion
import Trampoline.Proofs.Later
import Trampoline.Proofs.Move.Threads
import Trampoline.Proofs.Parking

/-!
On which threads runs go on.

All that the loop of a run does happens where the run is: calls of code and their ends, the
registrations of its boundaries, and telling its outcome.  A nested run does the same, from the
thread on which its context starts it, and its outcome completes the outer boundary on the thread
where it ends up.
-/

namespace Trampoline

variable {Memory : Type} {last : Form} {run : Nat}

/-! ### The log of a pool -/

theorem startHappenings_eq_of_mem {runs : Nat} {after : Machine Memory last}
    {noted : Nat × Happening Memory} (member : noted ∈ Machine.startHappenings runs after) :
    Machine.startHappenings runs after = [noted] := by
  unfold Machine.startHappenings at member ⊢
  split at member
  · rw [List.mem_singleton.1 member]
  · cases member

namespace Focus

variable {focus : Focus Memory last} {host : Host Memory}

/-- Without the start of a run, a run stays where it is if no completion of its boundaries would be
accepted. -/
theorem still_of_refuses (refuses : ∀ epoch, host.accepts ⟨run, epoch⟩ = false) (thread : Nat) :
    ∀ record ∈ recorded thread (focus.happenings host), record.IsStill run := by
  intro record member same
  obtain ⟨⟨other, happening⟩, shown, rfl⟩ := List.mem_map.1 member
  obtain rfl : other = run := same
  cases happening with
  | crossed epoch outcome =>
      obtain ⟨callers, focus, accepted⟩ := (shows_of_mem shown).crossed
      exact absurd ((refuses epoch).symm.trans accepted) Bool.false_ne_true
  | started plan pending token receiver => cases shows_of_mem shown
  | _ => exact ⟨rfl, rfl⟩

end Focus

theorem acceptances_started (runs thread : Nat) (after : Machine Memory last) :
    acceptances run (recorded thread (Machine.startHappenings runs after)) = [] := by
  refine List.filterMap_eq_nil_iff.2 fun record member => ?_
  obtain ⟨noted, listed, rfl⟩ := List.mem_map.1 (List.mem_filter.1 member).1
  obtain ⟨plan, pending, token, receiver, rfl⟩ := mem_startHappenings listed
  rfl

namespace Machine

/-- What happens in a move, on the threads where the loops are: a run that the move starts is on the
thread that is current after it. -/
def sightings (machine : Machine Memory last) : List (Record Memory) :=
  recorded machine.host.thread.id (machine.focus.happenings machine.host) ++
    recorded machine.next.host.thread.id (startHappenings machine.host.runs.size machine.next)

variable {machine : Machine Memory last}

theorem mem_sightings {record : Record Memory} (member : record ∈ machine.sightings) :
    (record.run, record.happening) ∈ machine.focus.happenings machine.host ∧
        record.thread = machine.host.thread.id ∨
      record.run = machine.host.runs.size ∧
        ∃ plan pending token receiver, record.happening = .started plan pending token receiver := by
  rcases List.mem_append.1 member with shown | begun
  · obtain ⟨⟨run, happening⟩, listed, rfl⟩ := List.mem_map.1 shown
    exact .inl ⟨listed, rfl⟩
  · obtain ⟨noted, listed, rfl⟩ := List.mem_map.1 begun
    obtain ⟨plan, pending, token, receiver, rfl⟩ := mem_startHappenings listed
    exact .inr ⟨rfl, plan, pending, token, receiver, rfl⟩

theorem course_sightings (run : Nat) :
    course run machine.sightings = course run machine.records := by
  rw [sightings, records, happenings, recorded, recorded, recorded, List.map_append, course_append,
    course_append]
  congr 1
  simp only [course, List.filterMap_map]
  rfl

theorem acceptances_sightings (run : Nat) :
    acceptances run machine.sightings = acceptances run machine.records := by
  have both (thread : Nat) (early late : List (Nat × Happening Memory)) :
      recorded thread (early ++ late) = recorded thread early ++ recorded thread late :=
    List.map_append
  rw [sightings, records, happenings, both, acceptances_append, acceptances_append,
    acceptances_started, acceptances_started]

theorem still_of_refuses (refuses : ∀ epoch, machine.host.accepts ⟨run, epoch⟩ = false)
    (older : run < machine.host.runs.size) : ∀ record ∈ machine.sightings, record.IsStill run := by
  intro record member
  rcases List.mem_append.1 member with shown | begun
  · exact Focus.still_of_refuses refuses _ record shown
  · intro same
    obtain ⟨noted, listed, rfl⟩ := List.mem_map.1 begun
    obtain ⟨plan, pending, token, receiver, rfl⟩ := mem_startHappenings listed
    exact absurd same (Nat.ne_of_gt older)

end Machine

def Pool.sightings (pool : Pool Memory) (position : Nat) : List (Record Memory) :=
  match pool.workers[position]? with
  | none => []
  | some worker => (worker.machine pool.host).sightings

/-- The worker at a position makes a move, and what happens is written down where the loops are. -/
def Chronicle.watch (chronicle : Chronicle Memory) (position : Nat) : Chronicle Memory where
  history := chronicle.history ++ chronicle.pool.sightings position
  pool := (chronicle.pool.move position).2

/-- What comes of a pool when its workers move in the order of a schedule, with all that has
happened on the threads where the loops were. -/
def Pool.watched (pool : Pool Memory) (schedule : List Nat) : Chronicle Memory :=
  schedule.foldl Chronicle.watch { pool }

/-! ### Where everything happens -/

/-- A nested run that is for the boundary of a completer has told an outcome on a thread. -/
def Brought (log : List (Record Memory)) (completer : Completer) (thread : Nat)
    (outcome : Outcome Value) : Prop :=
  ∃ nested plan pending token, Due.Asked log ⟨plan, pending, token, completer⟩ ∧
    .started plan pending token (.forward completer) ∈ course nested log ∧
    ⟨nested, thread, .told outcome⟩ ∈ log

theorem Brought.append {log : List (Record Memory)} {completer : Completer} {thread : Nat}
    {outcome : Outcome Value} (brought : Brought log completer thread outcome)
    (more : List (Record Memory)) : Brought (log ++ more) completer thread outcome := by
  obtain ⟨nested, plan, pending, token, asked, started, told⟩ := brought
  refine ⟨nested, plan, pending, token, asked.append more, ?_, List.mem_append_left _ told⟩
  rw [course_append]
  exact List.mem_append_left _ started

/-- What a log says of the threads of runs. -/
structure Placed (log : List (Record Memory)) : Prop where
  /-- All that the loop of a run does happens where the run is. -/
  own : ∀ before record rest, log = before ++ record :: rest → record.happening.isOwn = true →
    place record.run before = some record.thread
  /-- A completion is accepted where it is made. -/
  accepted : ∀ before run thread epoch outcome rest,
    log = before ++ ⟨run, thread, .crossed epoch outcome⟩ :: rest →
      ∃ earlier maker, before = earlier ++ [⟨run, thread, .attempted epoch outcome maker⟩]
  /-- A nested run completes the outer boundary where it has told its outcome. -/
  nested : ∀ before run thread epoch outcome rest,
    log = before ++ ⟨run, thread, .attempted epoch outcome .run⟩ :: rest →
      Brought before ⟨run, epoch⟩ thread outcome

theorem Placed.append {log more : List (Record Memory)} (placed : Placed log)
    (own : ∀ front record rest, more = front ++ record :: rest → record.happening.isOwn = true →
      place record.run (log ++ front) = some record.thread)
    (accepted : ∀ front run thread epoch outcome rest,
      more = front ++ ⟨run, thread, .crossed epoch outcome⟩ :: rest →
        ∃ earlier maker, front = earlier ++ [⟨run, thread, .attempted epoch outcome maker⟩])
    (nested : ∀ run thread epoch outcome, ⟨run, thread, .attempted epoch outcome .run⟩ ∈ more →
      Brought log ⟨run, epoch⟩ thread outcome) : Placed (log ++ more) where
  own before record rest split isOwn := by
    rcases append_eq_append_cons split with ⟨between, whole, _⟩ | ⟨front, rfl, here⟩
    · exact placed.own before record between whole isOwn
    · exact own front record rest here isOwn
  accepted before run thread epoch outcome rest split := by
    rcases append_eq_append_cons split with ⟨between, whole, _⟩ | ⟨front, rfl, here⟩
    · exact placed.accepted before run thread epoch outcome between whole
    · obtain ⟨earlier, maker, rfl⟩ := accepted front run thread epoch outcome rest here
      exact ⟨log ++ earlier, maker, (List.append_assoc ..).symm⟩
  nested before run thread epoch outcome rest split := by
    rcases append_eq_append_cons split with ⟨between, whole, _⟩ | ⟨front, rfl, here⟩
    · exact placed.nested before run thread epoch outcome between whole
    · exact (nested run thread epoch outcome (here ▸ List.mem_append_right _ (.head _))).append front

/-! ### One move -/

section Telling

variable {situation after : Situation Memory} {happenings : List (Nat × Happening Memory)}
  {thread : Nat} {pair : Completer × Outcome Value}

theorem OnlyChanges.keepsReceivers {runs kept : Array (Run Memory)}
    (changes : OnlyChanges run runs kept) : KeepsReceivers runs kept :=
  fun other _ known => (changes.receiverOf_eq other).trans known

theorem Effect.keepsReceivers (effect : Effect thread situation happenings after) :
    KeepsReceivers situation.runs after.runs := by
  cases effect with
  | loop _ _ retokened => exact OnlyChanges.keepsReceivers (.of_retokened retokened)
  | reach | park | resume | wait | takeUp => exact OnlyChanges.keepsReceivers .withBoundary
  | tell => exact OnlyChanges.keepsReceivers .withOutcome
  | start | launch => exact keepsReceivers_push
  | lose | ignore => exact fun _ _ known => known

theorem Effects.keepsReceivers (effects : Effects thread situation happenings after) :
    KeepsReceivers situation.runs after.runs := by
  induction effects with
  | none => exact fun _ _ known => known
  | more effect _ inductionHypothesis =>
      exact fun run receiver known =>
        inductionHypothesis run receiver (effect.keepsReceivers run receiver known)

theorem Maker.Takes.subset {maker : Maker} {completer : Completer} {outcome : Outcome Value}
    {telling rest : List (Completer × Outcome Value)}
    (takes : maker.Takes completer outcome telling rest) : rest ⊆ telling := by
  cases maker with
  | run =>
      obtain rfl : telling = (completer, outcome) :: rest := takes
      exact List.subset_cons_self _ _
  | code | registration =>
      obtain rfl : telling = rest := takes
      exact List.Subset.refl _

theorem Effect.told_of_telling (effect : Effect thread situation happenings after)
    (member : pair ∈ after.telling) : pair ∈ situation.telling ∨
      ∃ run, (run, .told pair.2) ∈ happenings ∧
        receiverOf after.runs run = some (.forward pair.1) := by
  cases effect with
  | ignore _ takes | park _ _ takes | resume _ _ takes => exact .inl (takes.subset member)
  | @tell run outcome entry _ _ _ _ _ _ found untold =>
      rcases List.mem_append.1 member with now | earlier
      · right
        cases receiver : entry.receiver with
        | code | nobody => simp [receiver, Receiver.telling] at now
        | forward completer =>
            simp only [receiver, Receiver.telling, List.mem_singleton] at now
            subst now
            refine ⟨run, .head _, ?_⟩
            rw [OnlyChanges.receiverOf_eq .withOutcome, receiverOf, found, Option.map_some, receiver]
      · exact .inl earlier
  | _ => exact .inl member

theorem Effects.told_of_telling (effects : Effects thread situation happenings after)
    (member : pair ∈ after.telling) : pair ∈ situation.telling ∨
      ∃ run, (run, .told pair.2) ∈ happenings ∧
        receiverOf after.runs run = some (.forward pair.1) := by
  induction effects with
  | none => exact .inl member
  | more effect rest inductionHypothesis =>
      rcases inductionHypothesis member with earlier | ⟨run, told, forwards⟩
      · rcases effect.told_of_telling earlier with before | ⟨run, told, forwards⟩
        · exact .inl before
        · exact .inr ⟨run, List.mem_append_left _ told, rest.keepsReceivers run _ forwards⟩
      · exact .inr ⟨run, List.mem_append_right _ told, forwards⟩

end Telling

namespace Machine

variable {host : Host Memory} {callers : Callers Memory last .unit}

theorem Completed.telling {completer : Completer} {outcome : Outcome Value}
    {after : Machine Memory last} (completed : Completed host completer outcome callers after) :
    after.focus.telling = [] := by
  cases completed with
  | ignored | parked => rfl
  | resumes => cases outcome <;> rfl

theorem not_telling_next {machine : Machine Memory last} {pair other : Completer × Outcome Value}
    (telling : pair ∈ machine.focus.telling) : other ∉ machine.next.focus.telling := by
  obtain ⟨focus, host⟩ := machine
  cases focus with
  | complete completer outcome callers =>
      have none : (next ⟨.complete completer outcome callers, host⟩).focus.telling = [] :=
        (completed host callers completer outcome).telling
      rw [none]
      exact List.not_mem_nil
  | _ => cases telling

theorem Ended.thread {run : Nat} {outcome : Outcome Value} {after : Machine Memory last}
    (ended : Ended host run outcome callers after) : after.host.thread.id = host.thread.id := by
  cases ended <;> rfl

/-- A run tells its outcome on the thread on which its receiver is called. -/
theorem told_mem_sightings {machine : Machine Memory last} {outcome : Outcome Value}
    (told : (run, .told outcome) ∈ machine.happenings) :
    ⟨run, machine.next.host.thread.id, .told outcome⟩ ∈ machine.sightings := by
  rcases List.mem_append.1 told with shown | begun
  · obtain ⟨focus, host⟩ := machine
    obtain ⟨callers, rfl, _⟩ := (Focus.shows_of_mem shown).told
    have same : (next ⟨.finish run outcome callers, host⟩).host.thread.id = host.thread.id :=
      (ended host callers run outcome).thread
    rw [same]
    exact List.mem_append_left _ (List.mem_map.2 ⟨_, shown, rfl⟩)
  · obtain ⟨_, _, _, _, started⟩ := mem_startHappenings begun
    cases started

theorem accepted_of_sightings {machine : Machine Memory last} {front rest : List (Record Memory)}
    {thread epoch : Nat} {outcome : Outcome Value}
    (split : machine.sightings = front ++ ⟨run, thread, .crossed epoch outcome⟩ :: rest) :
    ∃ earlier maker, front = earlier ++ [⟨run, thread, .attempted epoch outcome maker⟩] := by
  have listed : ⟨run, thread, .crossed epoch outcome⟩ ∈ machine.sightings :=
    split ▸ List.mem_append_right _ (.head _)
  rcases mem_sightings listed with ⟨shown, here⟩ | ⟨_, _, _, _, _, started⟩
  · obtain ⟨callers, focus, accepted⟩ := (Focus.shows_of_mem shown).crossed
    obtain rfl : thread = machine.host.thread.id := here
    rw [sightings, focus, Focus.happenings, if_pos accepted] at split
    rcases front with _ | ⟨first, _ | ⟨second, front⟩⟩
    · cases split
    · injection split with same
      exact ⟨[], callers.maker, by rw [← same]; rfl⟩
    · -- What comes after the crossing is at most the start of a run.
      injection split with _ split
      injection split with _ split
      have late : ⟨run, machine.host.thread.id, .crossed epoch outcome⟩ ∈ recorded
          machine.next.host.thread.id (startHappenings machine.host.runs.size machine.next) := by
        have late : recorded _ _ = front ++ _ :: rest := split
        rw [late]
        exact List.mem_append_right _ (.head _)
      obtain ⟨noted, begun, same⟩ := List.mem_map.1 late
      obtain ⟨plan, pending, token, receiver, rfl⟩ := mem_startHappenings begun
      exact absurd (congrArg Record.happening same) (by simp)
  · cases started

end Machine

namespace Chronicle

/-- A log agrees with a chronicle, and says that everything is where it should be. -/
structure Placing (watched chronicle : Chronicle Memory) : Prop where
  pool : watched.pool = chronicle.pool
  courses : ∀ run, course run watched.history = course run chronicle.history
  accepted : ∀ run, acceptances run watched.history = acceptances run chronicle.history
  placed : Placed watched.history
  here : ∀ worker ∈ chronicle.pool.workers, ∀ run thread,
    (run, thread) ∈ worker.focus.places worker.thread.id → place run watched.history = some thread
  brings : ∀ worker ∈ chronicle.pool.workers, ∀ pair ∈ worker.focus.telling,
    Brought watched.history pair.1 worker.thread.id pair.2

variable {watched chronicle : Chronicle Memory} {worker : Worker Memory} {thread : Nat}

theorem Reachable.still (reachable : chronicle.Reachable) (worker : Worker Memory)
    {other : Worker Memory}
    (member : other ∈ chronicle.pool.workers)
    (here : (run, thread) ∈ other.focus.places other.thread.id) :
    ∀ record ∈ (worker.machine chronicle.pool.host).sightings, record.IsStill run := by
  obtain ⟨standing, loop⟩ := Focus.exists_loop here
  have tracked := reachable.holds.tracked
  have there : (run, standing) ∈ chronicle.pool.situation.loops :=
    List.mem_flatMap.2 ⟨other, member, loop⟩
  apply Machine.still_of_refuses
  · exact fun epoch => tracked.refuses there rfl epoch
  · exact tracked.lt_size_of_loop there

theorem Reachable.kept (reachable : chronicle.Reachable) : chronicle.Kept fun _ _ => True := by
  obtain ⟨memory, codes, schedule, rfl⟩ := reachable
  exact Invariant.nothing.chronicle memory codes trivial schedule

namespace Placing

variable (placing : watched.Placing chronicle) (reachable : chronicle.Reachable)
include placing reachable

theorem place_started {plan : Plan Memory} {pending : Stack (Frame Memory)} {token : Token}
    {receiver : Receiver Memory}
    (begun : (chronicle.pool.host.runs.size, .started plan pending token receiver) ∈
      Machine.startHappenings chronicle.pool.host.runs.size
        (worker.machine chronicle.pool.host).next) :
    place chronicle.pool.host.runs.size
        (watched.history ++ (worker.machine chronicle.pool.host).sightings) =
      some (worker.machine chronicle.pool.host).next.host.thread.id := by
  have absent : chronicle.pool.host.runs[chronicle.pool.host.runs.size]? = none := by simp
  have unborn : course chronicle.pool.host.runs.size watched.history = [] := by
    have accounts := reachable.holds.tracked chronicle.pool.host.runs.size
    rw [show chronicle.pool.situation.runs = chronicle.pool.host.runs from rfl, receiverOf, absent]
      at accounts
    rw [placing.courses]
    exact accounts.eq_nil.1
  have refuses (epoch : Nat) : (worker.machine chronicle.pool.host).host.accepts
      ⟨chronicle.pool.host.runs.size, epoch⟩ = false := by
    have missing : (worker.machine chronicle.pool.host).host.boundary?
        chronicle.pool.host.runs.size = none := by
      rw [Host.boundary?, show (worker.machine chronicle.pool.host).host.runs =
        chronicle.pool.host.runs from rfl, absent, Option.bind_none]
    rw [Host.accepts, missing, Option.any_none]
  rw [Machine.sightings, show (worker.machine chronicle.pool.host).host.runs.size =
    chronicle.pool.host.runs.size from rfl, startHappenings_eq_of_mem begun]
  exact place_of_started (still_of_course unborn) (Focus.still_of_refuses refuses _)

/-- After a move, too, every loop is open where its run is. -/
theorem place_next (member : worker ∈ chronicle.pool.workers)
    (here : (run, thread) ∈ (worker.machine chronicle.pool.host).next.places) :
    place run (watched.history ++ (worker.machine chronicle.pool.host).sightings) =
      some thread := by
  generalize listed : (run, thread) = item at here
  cases Machine.opens_next _ here with
  | stays here =>
      subst listed
      rw [place_append_of_still (reachable.still worker member here)]
      exact placing.here worker member run thread here
  | starts begun =>
      obtain ⟨noted, shown, same⟩ := List.mem_map.1 begun
      obtain ⟨plan, pending, token, receiver, rfl⟩ := mem_startHappenings shown
      cases listed.trans same.symm
      exact placing.place_started reachable shown
  | @crosses other epoch outcome happens =>
      cases listed
      obtain ⟨callers, focus, accepted⟩ := (Focus.shows_of_mem happens).crossed
      apply place_of_accepted
      have now : acceptances run (recorded worker.thread.id
          (worker.focus.happenings (worker.machine chronicle.pool.host).host)) =
            [worker.thread.id] := by
        rw [show worker.focus = _ from focus, Focus.happenings, if_pos accepted]
        simp [acceptances, recordsOf, recorded, List.filterMap_cons, Record.acceptance?]
      rw [Machine.sightings, acceptances_append, acceptances_append, acceptances_started,
        List.append_nil]
      exact (congrArg (fun late => (acceptances run watched.history ++ late).getLast?) now).trans
        List.getLast?_concat
  | @takesUp opening boundary pending outcome opened found same parked =>
      cases listed
      have open' : opening ∈ chronicle.pool.situation.openings :=
        List.mem_flatMap.2 ⟨worker, member, opened⟩
      have last := reachable.accepted_of_parked open' found same parked
      rw [← placing.accepted] at last
      rw [place_append_of_still, place_of_accepted last]
      apply Machine.still_of_refuses
      · intro epoch
        have located : (worker.machine chronicle.pool.host).host.boundary? opening.run =
            some boundary := found
        simp [Host.accepts, located, Boundary.isArmed, parked]
      · obtain ⟨entry, located, _⟩ := entry_of_boundaryOf found
        exact (Array.getElem?_eq_some_iff.1 located).1

/-- An outcome is on its way to another run on the thread on which it has been told. -/
theorem brought_next {position : Nat} (found : chronicle.pool.workers[position]? = some worker)
    {pair : Completer × Outcome Value}
    (telling : pair ∈ (worker.machine chronicle.pool.host).next.focus.telling) :
    Brought (watched.history ++ (worker.machine chronicle.pool.host).sightings) pair.1
      (worker.machine chronicle.pool.host).next.host.thread.id pair.2 := by
  obtain ⟨before, rest, workers⟩ := List.append_of_mem (List.mem_of_getElem? found)
  have effects := reachable.kept.effects_worker .nothing workers
  rcases effects.told_of_telling telling with earlier | ⟨nested, told, forwards⟩
  · exact absurd telling (Machine.not_telling_next earlier)
  · have moved := Pool.move_of_worker found
    have after : (chronicle.move position).Reachable := reachable.after [position]
    have courses (run : Nat) :
        course run (watched.history ++ (worker.machine chronicle.pool.host).sightings) =
          course run (chronicle.move position).history := by
      rw [move, moved, course_append, course_append, placing.courses, Machine.course_sightings]
    have known : receiverOf (chronicle.move position).pool.host.runs nested =
        some (.forward pair.1) := by
      rw [move, moved]
      exact forwards
    obtain ⟨plan, pending, token, _, _, started⟩ := after.holds.tracked.started_of_receiver known
    obtain ⟨registration, current, frames, reached, due⟩ :=
      (after.holds.kept.started nested plan pending token pair.1 started).2
    refine ⟨nested, plan, pending, token, ⟨registration, current, frames, ?_, due⟩, ?_, ?_⟩
    · rw [courses]
      exact reached
    · rw [courses]
      exact started
    · exact List.mem_append_right _ (Machine.told_mem_sightings told)

theorem placed_next (member : worker ∈ chronicle.pool.workers) :
    Placed (watched.history ++ (worker.machine chronicle.pool.host).sightings) := by
  apply placing.placed.append
  · intro front record rest split own
    have listed : record ∈ (worker.machine chronicle.pool.host).sightings :=
      split ▸ List.mem_append_right _ (.head _)
    rcases Machine.mem_sightings listed with ⟨shown, thread⟩ | ⟨_, _, _, _, _, started⟩
    · have here := (Focus.shows_of_mem shown).mem_places own worker.thread.id
      have still := reachable.still worker member here
      rw [place_append_of_still fun earlier early =>
        still earlier (split ▸ List.mem_append_left _ early), thread]
      exact placing.here worker member record.run worker.thread.id here
    · rw [started] at own
      cases own
  · intro front run thread epoch outcome rest split
    exact Machine.accepted_of_sightings split
  · intro run thread epoch outcome listed
    rcases Machine.mem_sightings listed with ⟨shown, same⟩ | ⟨_, _, _, _, _, started⟩
    · obtain ⟨callers, focus, maker⟩ := (Focus.shows_of_mem shown).attempted
      have telling : (⟨run, epoch⟩, outcome) ∈ worker.focus.telling := by
        rw [show worker.focus = _ from focus, Focus.telling, if_pos maker.symm]
        exact .head _
      obtain rfl : thread = worker.thread.id := same
      exact placing.brings worker member _ telling
    · cases started

theorem watch (position : Nat) : (watched.watch position).Placing (chronicle.move position) := by
  cases found : chronicle.pool.workers[position]? with
  | none =>
      have idle : chronicle.move position = chronicle := by
        rw [move, Pool.move_of_none found, List.append_nil]
      have quiet : watched.watch position = watched := by
        rw [Chronicle.watch, placing.pool, Pool.sightings, found, List.append_nil,
          Pool.move_of_none found, ← placing.pool]
      rw [idle, quiet]
      exact placing
  | some worker =>
      have member := List.mem_of_getElem? found
      have history : (watched.watch position).history =
          watched.history ++ (worker.machine chronicle.pool.host).sightings := by
        rw [Chronicle.watch, placing.pool, Pool.sightings, found]
      have moved := Pool.move_of_worker found
      constructor
      · rw [Chronicle.watch, placing.pool, move]
      · intro run
        rw [history, move, moved, course_append, course_append, placing.courses,
          Machine.course_sightings]
      · intro run
        rw [history, move, moved, acceptances_append, acceptances_append, placing.accepted,
          Machine.acceptances_sightings]
      · rw [history]
        exact placing.placed_next reachable member
      · intro other listed run thread here
        rw [history]
        rw [move, moved] at listed
        rcases List.mem_or_eq_of_mem_set listed with there | rfl
        · rw [place_append_of_still (reachable.still worker there here)]
          exact placing.here other there run thread here
        · exact placing.place_next reachable member here
      · intro other listed pair telling
        rw [history]
        rw [move, moved] at listed
        rcases List.mem_or_eq_of_mem_set listed with there | rfl
        · exact (placing.brings other there pair telling).append _
        · exact placing.brought_next reachable found telling

end Placing

theorem Placing.opening (memory : Memory) (codes : List (Option String × Code Memory .unit)) :
    Placing ({ pool := .opening memory codes } : Chronicle Memory)
      { pool := .opening memory codes } where
  pool := rfl
  courses _ := rfl
  accepted _ := rfl
  placed := by
    constructor <;> intros <;> simp_all
  here := by
    intro worker member run thread here
    obtain ⟨position, name, rfl⟩ := List.mem_mapIdx.1 member
    cases here
  brings := by
    intro worker member pair telling
    obtain ⟨position, name, rfl⟩ := List.mem_mapIdx.1 member
    cases telling

/-- The log of a schedule agrees with its chronicle, and all is where it should be. -/
theorem placing (memory : Memory) (codes : List (Option String × Code Memory .unit))
    (schedule : List Nat) : ((Pool.opening memory codes).watched schedule).Placing
      ((Pool.opening memory codes).chronicle schedule) := by
  induction schedule using List.reverseRecOn with
  | nil => exact .opening memory codes
  | append_singleton schedule position inductionHypothesis =>
      have reachable : ((Pool.opening memory codes).chronicle schedule).Reachable :=
        ⟨memory, codes, schedule, rfl⟩
      have next := inductionHypothesis.watch reachable position
      rwa [Pool.watched, Pool.chronicle, List.foldl_concat, List.foldl_concat]

end Chronicle

/-- Whatever threads there are and however they take turns, a run goes on where a completion of its
boundaries was last accepted, or else where it was started: all that its loop calls and does happens
there, and so do the registrations of its boundaries and telling its outcome.  A completion is
accepted where it is made, and the one that a nested run makes is made where that run has told its
outcome, which is where that run is. -/
theorem runs_go_on_in_place (memory : Memory) (codes : List (Option String × Code Memory .unit))
    (schedule : List Nat) :
    let chronicle := (Pool.opening memory codes).chronicle schedule
    let log := ((Pool.opening memory codes).watched schedule).history
    (∀ run, course run log = course run chronicle.history) ∧ Placed log ∧
      ∀ worker ∈ chronicle.pool.workers, ∀ run thread,
        (run, thread) ∈ worker.focus.places worker.thread.id → place run log = some thread := by
  intro chronicle log
  have placing := Chronicle.placing memory codes schedule
  exact ⟨placing.courses, placing.placed, placing.here⟩

section Hopping

def answerThere (_value : Value) : Code Unit .value := Code.value (.datum (.bool true))

def Plan.hoppingThere : Plan Unit :=
  .map (.continueOn (.map .unit answerThere) (.spawner 0 "there")) answerThere

def Plan.logHoppingThere : List (Record Unit) :=
  ((Pool.opening () Plan.hoppingThere.alone).watched (List.replicate 25 0)).history

theorem places_hoppingThere :
    (Plan.logHoppingThere.filter (·.happening.isOwn)).map (fun record => (record.run, record.thread)) =
      List.replicate 4 (0, 0) ++ List.replicate 6 (1, 1) ++ List.replicate 5 (0, 1) := by
  cbv

/-- The nested run goes on where its context has started it, and the outer run where that ended. -/
theorem runs_go_on_in_place_hopping :
    (Plan.logHoppingThere.filter (·.happening.isOwn)).map (fun record => (record.run, record.thread)) =
        List.replicate 4 (0, 0) ++ List.replicate 6 (1, 1) ++ List.replicate 5 (0, 1) ∧
      Placed Plan.logHoppingThere :=
  ⟨places_hoppingThere,
    (runs_go_on_in_place () Plan.hoppingThere.alone (List.replicate 25 0)).2.1⟩

end Hopping

end Trampoline
