import Mathlib
import Trampoline.Proofs.Enclosure
import Trampoline.Proofs.Move.Bookkeeping

/-!
Guards and reports, whatever the schedule.

A thread counts the guards that are open on it.  Whoever is called gives the thread back as it was, so
that code which guards other code goes on with as many guards as before, whether that has answered or
panicked.  Once panics under guards are left unreported, those that are raised aloud elsewhere are
reported, each one as it is raised.
-/

namespace Trampoline

variable {Memory : Type} {last form : Form}

/-- What has become of code that was called on a thread: it goes on above its callers, or it has given
them the thread back as it was, with an answer or a panic. -/
inductive Chronicle.GivesBack (chronicle : Chronicle Memory) (position : Nat)
    (below : Callers Memory last form) (thread : Thread) (schedule : List Nat) : Prop where
  | inside {focus : Focus Memory form} {current} (going : focus.isGoing = true)
      (here : (chronicle.after schedule).pool.workers[position]? =
        some ⟨focus.above below, current⟩)
      (returns : focus.Returns current thread)
  | returned (before rest : List Nat) {answer}
      (split : schedule = before ++ position :: rest)
      (here : (chronicle.after before).pool.workers[position]? =
        some ⟨.code (.done answer) below, thread⟩)
  | panicked (before rest : List Nat) {payload}
      (split : schedule = before ++ position :: rest)
      (here : (chronicle.after before).pool.workers[position]? =
        some ⟨.unwind payload below, thread⟩)

/-- What has become of code under a guard: it goes on, or the guard has closed and the code that opened
it goes on with what was caught, on a thread that is as it was before. -/
inductive Chronicle.Closes (chronicle : Chronicle Memory) (position : Nat)
    (next : Except Panic Value → Code Memory form) (callers : Callers Memory last form)
    (thread : Thread) (schedule : List Nat) : Prop where
  | inside {focus : Focus Memory .value} {current} (going : focus.isGoing = true)
      (here : (chronicle.after schedule).pool.workers[position]? =
        some ⟨focus.above (.push (.guarding next) callers), current⟩)
  | closed (before rest : List Nat) (caught : Except Panic Value)
      (split : schedule = before ++ rest)
      (here : (chronicle.after before).pool.workers[position]? =
        some ⟨.code (next caught) callers, thread⟩)

namespace Worker

def GivesBack (worker : Worker Memory) : Prop :=
  ∃ home : Thread, home.guards = 0 ∧ worker.focus.Returns worker.thread home

/-- The panic that code raises aloud where no guard is open. -/
def uncaught : Reader Memory Payload := fun worker _ =>
  if worker.focus.openGuards = 0 then worker.focus.loud else []

def silencings : Reader Memory Unit := fun worker _ =>
  if worker.focus.silences then [()] else []

theorem GivesBack.guards_eq {worker : Worker Memory} (givesBack : worker.GivesBack) :
    worker.thread.guards = worker.focus.openGuards := by
  obtain ⟨home, none, returns⟩ := givesBack
  exact returns.guards_eq none

theorem GivesBack.next {worker : Worker Memory} (givesBack : worker.GivesBack)
    (host : Host Memory) : (worker.machine host).next.worker.GivesBack := by
  obtain ⟨home, none, returns⟩ := givesBack
  exact ⟨home, none, (worker.machine host).balances_next.returns home returns⟩

theorem reverse_uncaught (worker : Worker Memory) (host : Host Memory) :
    (worker.uncaught host).reverse = worker.uncaught host := by
  simp only [uncaught, Focus.loud]
  split
  · split <;> rfl
  · rfl

theorem GivesBack.reported_eq {worker : Worker Memory} (givesBack : worker.GivesBack)
    {host : Host Memory} (silent : host.silencesGuarded = true) :
    (worker.machine host).reported = worker.uncaught host := by
  have counted := givesBack.guards_eq
  by_cases unguarded : worker.focus.openGuards = 0
  · simp [Machine.reported, uncaught, machine, counted, unguarded]
  · have guarded : 0 < worker.focus.openGuards := Nat.pos_of_ne_zero unguarded
    simp [Machine.reported, uncaught, machine, counted, unguarded, guarded, silent]

end Worker

namespace Pool

variable {pool : Pool Memory}

def GivesBack (pool : Pool Memory) : Prop :=
  ∀ worker ∈ pool.workers, worker.GivesBack

theorem GivesBack.move (givesBack : pool.GivesBack) (position : Nat) :
    (pool.move position).2.GivesBack :=
  forall_workers_move givesBack fun worker found =>
    (givesBack worker (List.mem_of_getElem? found)).next pool.host

theorem givesBack_chronicle (memory : Memory) (codes : List (Option String × Code Memory .unit))
    (schedule : List Nat) : ((opening memory codes).chronicle schedule).pool.GivesBack := by
  refine chronicle_induction (motive := fun chronicle => chronicle.pool.GivesBack) _ ?_
    (fun chronicle position held => held.move position) schedule
  intro worker member
  obtain ⟨id, bound, rfl⟩ := List.mem_mapIdx.1 member
  exact ⟨_, rfl, rfl⟩

theorem silencesGuarded_move (pool : Pool Memory) (position : Nat) :
    (pool.move position).2.host.silencesGuarded =
      (!(pool.reading Worker.silencings position).isEmpty || pool.host.silencesGuarded) := by
  cases found : pool.workers[position]? with
  | none => rw [move_of_none found, reading_of_none _ found]; rfl
  | some worker =>
      rw [move_of_worker found, reading_of_worker _ found, Worker.silencings]
      refine (worker.machine pool.host).balances_next.silences.trans ?_
      cases asked : worker.focus.silences <;> simp [Worker.machine, asked]

/-- A panic that is raised aloud where no guard is open is reported, and no other. -/
theorem reports_move (givesBack : pool.GivesBack) (silent : pool.host.silencesGuarded = true)
    (position : Nat) :
    (pool.move position).2.host.reports =
      (pool.reading Worker.uncaught position).reverse.map Payload.text? ++ pool.host.reports := by
  cases found : pool.workers[position]? with
  | none => rw [move_of_none found, reading_of_none _ found]; rfl
  | some worker =>
      have given := givesBack worker (List.mem_of_getElem? found)
      rw [move_of_worker found, reading_of_worker _ found, Worker.reverse_uncaught,
        ← given.reported_eq silent]
      exact (worker.machine pool.host).balances_next.reports

end Pool

namespace Chronicle

variable {chronicle : Chronicle Memory} {position : Nat} {thread : Thread}

theorem givesBack_called {code : Code Memory form} {callers : Callers Memory last form}
    (found : chronicle.pool.workers[position]? = some ⟨.code code callers, thread⟩)
    (schedule : List Nat) : chronicle.GivesBack position callers thread schedule := by
  let inside (focus : Focus Memory form) (current : Thread) : Prop := focus.Returns current thread
  have kept : ∀ focus (host : Host Memory), inside focus host.thread → focus.isGoing = true →
      (Machine.next ⟨focus, host⟩).focus.isGoing = true →
        inside (Machine.next ⟨focus, host⟩).focus (Machine.next ⟨focus, host⟩).host.thread :=
    fun focus host returns _ _ => (Machine.balances_next ⟨focus, host⟩).returns thread returns
  have begins : inside (.code code .bottom) thread := rfl
  have above : chronicle.pool.workers[position]? =
      some ⟨(Focus.code code .bottom).above callers, thread⟩ := found
  cases surrounds kept begins rfl above schedule with
  | going returns going here => exact .inside going here returns
  | @left before rest focus current returns leaves split here =>
      rcases leaves with ⟨answer, rfl⟩ | ⟨payload, rfl⟩
      · obtain rfl : current = thread := returns
        exact .returned before rest split here
      · obtain rfl : current = thread := returns
        exact .panicked before rest split here

theorem closes_guard {body : Unit → Code Memory .value} {next : Except Panic Value → Code Memory form}
    {callers : Callers Memory last form}
    (found : chronicle.pool.workers[position]? = some ⟨.code (.guard body next) callers, thread⟩)
    (schedule : List Nat) :
    (chronicle.move position).Closes position next callers thread schedule := by
  have entered : (chronicle.move position).pool.workers[position]? =
      some ⟨.code (body ()) (.push (.guarding next) callers),
        { thread with guards := thread.guards + 1 }⟩ := Pool.worker_move_self found
  have moved (before : List Nat) : ((chronicle.move position).after (before ++ [position])).pool =
      (((chronicle.move position).after before).move position).pool :=
    congrArg Chronicle.pool (List.foldl_append ..)
  cases givesBack_called entered schedule with
  | inside going here returns => exact .inside going here
  | @returned before rest answer split here =>
      cases answer with
      | value value =>
          exact .closed (before ++ [position]) rest (.ok value) (by simpa using split)
            ((congrArg (·.workers[position]?) (moved before)).trans (Pool.worker_move_self here))
  | @panicked before rest payload split here =>
      exact .closed (before ++ [position]) rest (.error _) (by simpa using split)
        ((congrArg (·.workers[position]?) (moved before)).trans (Pool.worker_move_self here))

theorem silencesGuarded_after (chronicle : Chronicle Memory) (schedule : List Nat) :
    (chronicle.after schedule).pool.host.silencesGuarded =
      (!(chronicle.pool.readings Worker.silencings schedule).isEmpty ||
        chronicle.pool.host.silencesGuarded) := by
  induction schedule generalizing chronicle with
  | nil => rfl
  | cons position schedule inductionHypothesis =>
      have later := inductionHypothesis (chronicle.move position)
      have now := chronicle.pool.silencesGuarded_move position
      rw [Chronicle.move] at later
      refine later.trans ?_
      rw [now, Pool.readings]
      cases chronicle.pool.reading Worker.silencings position <;>
        cases (chronicle.pool.move position).2.readings Worker.silencings schedule <;> simp

theorem reports_after (givesBack : chronicle.pool.GivesBack)
    (silent : chronicle.pool.host.silencesGuarded = true) (schedule : List Nat) :
    (chronicle.after schedule).pool.host.reports =
      (chronicle.pool.readings Worker.uncaught schedule).reverse.map (·.2.text?) ++
        chronicle.pool.host.reports := by
  induction schedule generalizing chronicle with
  | nil => rfl
  | cons position schedule inductionHypothesis =>
      have silent' : (chronicle.move position).pool.host.silencesGuarded = true := by
        rw [Chronicle.move, chronicle.pool.silencesGuarded_move, silent, Bool.or_true]
      have givesBack' : (chronicle.move position).pool.GivesBack := givesBack.move position
      refine (inductionHypothesis givesBack' silent').trans ?_
      rw [Chronicle.move, Pool.reports_move givesBack silent, Pool.readings]
      simp [List.map_reverse, Function.comp_def]

end Chronicle

/-- What holds of guards and of reports as a chronicle goes on. -/
structure Chronicle.KeepsGuards (chronicle : Chronicle Memory) (schedule : List Nat) : Prop where
  /-- A thread counts the guards that are open on it, and says so where it is asked. -/
  counted : ∀ worker ∈ (chronicle.after schedule).pool.workers,
    worker.thread.guards = worker.focus.openGuards ∧
      (worker.machine (chronicle.after schedule).pool.host).host.reply .isGuarded =
        (decide (0 < worker.focus.openGuards),
          (worker.machine (chronicle.after schedule).pool.host).host)
  /-- Whatever code is called gives the thread back as it was. -/
  called : ∀ position last form (code : Code Memory form) (callers : Callers Memory last form)
    thread, chronicle.pool.workers[position]? = some ⟨.code code callers, thread⟩ →
      chronicle.GivesBack position callers thread schedule
  /-- Code that guards other code goes on with as many guards as before. -/
  closed : ∀ position last form body (next : Except Panic Value → Code Memory form)
    (callers : Callers Memory last form) thread,
    chronicle.pool.workers[position]? = some ⟨.code (.guard body next) callers, thread⟩ →
      (chronicle.move position).Closes position next callers thread schedule
  /-- A thread that is started has no guard open. -/
  started : ∀ worker ∈ (chronicle.after schedule).pool.workers,
    let machine := worker.machine (chronicle.after schedule).pool.host
    machine.next.host.threads ≠ machine.host.threads → machine.next.host.thread.guards = 0
  /-- The panics that are raised aloud where no guard is open are reported, each once and as they
  come, and no others. -/
  reported :
    (chronicle.after schedule).pool.host.reports =
      (chronicle.pool.readings Worker.uncaught schedule).reverse.map (·.2.text?) ++
        chronicle.pool.host.reports

/-- Guards close as they are opened, and once panics under guards are to be left unreported, those
alone are reported that are raised elsewhere. -/
theorem guards_close_and_hide_panics (memory : Memory)
    (codes : List (Option String × Code Memory .unit)) (earlier schedule : List Nat)
    (asked : (Pool.opening memory codes).readings Worker.silencings earlier ≠ []) :
    ((Pool.opening memory codes).chronicle earlier).KeepsGuards schedule := by
  have silenced :
      ((Pool.opening memory codes).chronicle earlier).pool.host.silencesGuarded = true := by
    have after := Chronicle.silencesGuarded_after { pool := Pool.opening memory codes } earlier
    rw [List.isEmpty_eq_false_iff.2 asked] at after
    exact after
  have givesBack := Pool.givesBack_chronicle memory codes earlier
  have givesBack' :
      (((Pool.opening memory codes).chronicle earlier).after schedule).pool.GivesBack := by
    rw [Chronicle.after, Pool.chronicle, ← List.foldl_append]
    exact Pool.givesBack_chronicle memory codes (earlier ++ schedule)
  generalize (Pool.opening memory codes).chronicle earlier = chronicle
    at silenced givesBack givesBack' ⊢
  constructor
  case counted =>
    intro worker member
    have counted := (givesBack' worker member).guards_eq
    exact ⟨counted, by simp only [Worker.machine, Host.reply, counted]⟩
  case called => exact fun _ _ _ _ _ _ found => Chronicle.givesBack_called found schedule
  case closed => exact fun _ _ _ _ _ _ _ found => Chronicle.closes_guard found schedule
  case started => exact fun worker _ => (worker.machine _).balances_next.threads
  case reported => exact Chronicle.reports_after givesBack silenced schedule

def Code.troubled : Code Memory .unit :=
  let inner : Unit → Code Memory .value := fun _ =>
    .onThread none (fun _ => .panic (.message "started") false) fun _ =>
      .panic (.message "inner") false
  let outer : Unit → Code Memory .value := fun _ => .guard inner fun _ => .panic .other true
  .guard outer fun _ => .panic (.message "alone") false

/-- The panic on the thread that was started is reported, and the one under no guard. -/
theorem guards_close_and_hide_panics_troubled :
    let pool := Pool.opening ()
      [(none, .ask .silenceGuarded fun _ => .ask .silenceGuarded fun _ => Code.troubled)]
    pool.readings Worker.silencings [0, 0] ≠ [] ∧
      (pool.chronicle [0, 0]).KeepsGuards (List.replicate 16 0) ∧
      ((pool.chronicle [0, 0]).after (List.replicate 16 0)).pool.host.reports =
        [some "alone", some "started"] := by
  have asked : (Pool.opening ()
      [(none, .ask .silenceGuarded fun _ => .ask .silenceGuarded fun _ => Code.troubled)]).readings
        Worker.silencings [0, 0] ≠ [] := by cbv; exact List.cons_ne_nil _ _
  exact ⟨asked, guards_close_and_hide_panics () _ [0, 0] _ asked, by cbv⟩

end Trampoline
