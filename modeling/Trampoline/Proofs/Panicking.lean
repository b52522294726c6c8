import Trampoline.Proofs.Enclosure
import Trampoline.Proofs.Recovery
import Trampoline.Proofs.Showing

/-!
Panics do not cross the run loop, and each is captured once.

Whatever code a loop calls, it calls under a guard, where a panic of that code stops.  The run then
goes on as if the code had failed.  What is caught is looked at and dropped, which does not panic
here.
-/

namespace Trampoline

variable {Memory : Type} {last : Form}

/-! ### Code is called under guards -/

theorem Machine.next_of_told {machine : Machine Memory last} {run : Nat} {outcome : Outcome Value}
    {receive : Outcome Value → Code Memory .unit} (told : (run, .told outcome) ∈ machine.happenings)
    (received : receiverOf machine.host.runs run = some (.code receive)) :
    ∃ callers, machine.next.focus = .code (receive outcome) (.push .telling callers) := by
  obtain ⟨focus, host⟩ := machine
  obtain ⟨callers, rfl, untold⟩ := (shows_of_old told (by simp)).told
  obtain ⟨entry, found, sameReceiver⟩ := Option.map_eq_some_iff.1 received
  obtain ⟨receiver, outcome?, boundary⟩ := entry
  obtain rfl : receiver = .code receive := sameReceiver
  have silent : outcome?.isSome = false := by simpa [found] using untold
  refine ⟨callers, ?_⟩
  simp [next, finish, found, silent]

/-! ### What comes of panics -/

/-- What comes of panics as a chronicle goes on. -/
structure Chronicle.Withstands (chronicle : Chronicle Memory) (schedule : List Nat) : Prop where
  /-- The count grows by what guards of the run loop capture, and those of code. -/
  counted :
    let captures := chronicle.pool.readings Worker.captures schedule
    (chronicle.after schedule).pool.host.capturedPanics = chronicle.pool.host.capturedPanics +
      (captures.countP (!·.2.isCatch) + captures.countP (·.2.isCatch))
  /-- Captures are numbered in their order. -/
  numbered :
    let captures := chronicle.pool.readings Worker.captures schedule
    captures.map (·.2.panic.number) =
      List.range' (chronicle.pool.host.capturedPanics + 1) captures.length
  /-- Of the panics that a worker raises under guards each is captured once, but for one that still
  unwinds. -/
  balanced : ∀ position,
    chronicle.pool.reading Worker.inFlight position ++
        readingsOf position (chronicle.pool.readings Worker.raises schedule) =
      (readingsOf position (chronicle.pool.readings Worker.captures schedule)).map
          Capture.payload ++
        (chronicle.after schedule).pool.reading Worker.inFlight position
  /-- A run hears only of panics that have been captured, and of each once. -/
  heard : ∃ more, (chronicle.after schedule).history = chronicle.history ++ more ∧
    (more.filterMap (·.happening.panic?)).Sublist
      ((chronicle.pool.readings Worker.captures schedule).map (·.2.panic))
  /-- No panic unwinds out of what starts, steps or resumes a run. -/
  entered : ∀ position last form middle (code : Code Memory form)
    (caller : Caller Memory middle form) (callers : Callers Memory last form) thread,
    code.Enters chronicle.pool.host.runs.size caller →
    chronicle.pool.workers[position]? = some ⟨.code code callers, thread⟩ →
      (chronicle.move position).Encloses position (.push caller callers) false schedule
  /-- Code that a loop calls is called under a guard. -/
  called : ∀ worker ∈ chronicle.pool.workers, ∀ run (call : Call Memory) token,
    let machine := worker.machine chronicle.pool.host
    (run, .called call token) ∈ machine.happenings →
      ∃ (rest : Form) (caller : Caller Memory call.form rest)
        (callers : Callers Memory worker.last rest),
        machine.next.focus = .code call.code (.push caller callers) ∧ caller.isGuard = true
  /-- A registration is called under a guard, and so is what its context calls. -/
  reached : ∀ worker ∈ chronicle.pool.workers, ∀ run epoch registration token pending,
    let machine := worker.machine chronicle.pool.host
    (run, .reached epoch registration token pending) ∈ machine.happenings →
      ∃ callers between, machine.next = registration.call token ⟨run, epoch⟩
        (.push (.registering run epoch token) callers) between
  /-- A receiver is called under a guard. -/
  told : ∀ worker ∈ chronicle.pool.workers, ∀ run outcome receive,
    let machine := worker.machine chronicle.pool.host
    (run, .told outcome) ∈ machine.happenings →
    receiverOf chronicle.pool.host.runs run = some (.code receive) →
      ∃ callers, machine.next.focus = .code (receive outcome) (.push .telling callers)
  /-- Code that was called returns to whoever called it, or panics there. -/
  enclosed : ∀ position last form rest (code : Code Memory form)
    (caller : Caller Memory form rest) (callers : Callers Memory last rest) thread,
    chronicle.pool.workers[position]? = some ⟨.code code (.push caller callers), thread⟩ →
      chronicle.Encloses position (.push caller callers) true schedule
  /-- A guard captures the panic that comes to it, and of the host nothing else changes. -/
  captured : ∀ worker ∈ chronicle.pool.workers, ∀ payload form rest
    (caller : Caller Memory form rest) callers, caller.isGuard = true →
    worker.focus = .unwind payload (.push caller callers) →
      let machine := worker.machine chronicle.pool.host
      machine.captures = [⟨payload, (machine.host.capture payload).1, caller.isCatch⟩] ∧
        machine.next.focus.isUnwinding = false ∧
        ∃ guards journal, machine.next.host =
          { machine.host with
            thread := { machine.host.thread with guards }
            capturedPanics := machine.host.capturedPanics + 1
            journal }
  /-- A run recovers from the panics of what its loop has called. -/
  recovered : ∀ run plan pending token receiver before panic rest,
    course run chronicle.history =
      .started plan pending token receiver :: (before ++ .panicked panic :: rest) →
      ∃ goal, chronicle.pool.situation.standings run = [goal] ∧
        Standing.Recovers (.iterating plan pending.toList token) before panic rest goal
  /-- Stepping recovers as a run does. -/
  stepped : ∀ (plan : Plan Memory) token hosts before panic rest,
    plan.stepping.stepsOn token hosts = before ++ .panicked panic :: rest →
      ∃ goal, (plan.stepping.after hosts).Stands token goal ∧
        Standing.Recovers (.iterating plan [] token) before panic rest goal
  /-- A registration that panics comes to what it would come to had it failed its boundary with the
  panic and returned. -/
  registered : ∀ worker ∈ chronicle.pool.workers, ∀ payload run epoch token callers,
    worker.focus = .unwind payload (.push (.registering run epoch token) callers) →
      let machine := worker.machine chronicle.pool.host
      let panic := (machine.host.capture payload).1
      machine.moves 3 = Machine.moves 4
        ⟨.code (.complete ⟨run, epoch⟩ (.error (.panicked panic)) fun _ => Code.unit)
          (.push (.registering run epoch token) callers), machine.host.counting payload⟩
  /-- Its boundary fails with the panic unless it has been completed. -/
  failed : ∀ worker ∈ chronicle.pool.workers, ∀ run epoch token outcome callers,
    worker.focus = .complete ⟨run, epoch⟩ outcome (.push (.detaching run epoch token) callers) →
      let machine := worker.machine chronicle.pool.host
      ∃ reach ∈ reaches (recordsOf run chronicle.history), reach.epoch = epoch ∧
        machine.next = Machine.finished (.push (.detaching run epoch token) callers)
          (if attempts epoch (recordsOf run chronicle.history) = [] then
            machine.host.setBoundary run ⟨reach.epoch, reach.token, .parked reach.pending outcome⟩
          else machine.host.emit (.ignoredCompletion epoch))
  /-- A receiver that panics comes to what it would come to had it returned, but for the journal. -/
  received : ∀ worker ∈ chronicle.pool.workers, ∀ payload callers,
    worker.focus = .unwind payload (.push .telling callers) →
      let machine := worker.machine chronicle.pool.host
      let panic := (machine.host.capture payload).1
      machine.next = Machine.next ⟨.code (.done .unit) (.push .telling callers),
        (machine.host.counting payload).emit (.receiverPanicked panic.message)⟩

theorem Caller.captured_unwind {form rest : Form} (caller : Caller Memory form rest)
    (isGuard : caller.isGuard = true) (payload : Payload) (callers : Callers Memory last rest)
    (host : Host Memory) :
    (caller.unwind payload callers host).focus.isUnwinding = false ∧
      ∃ guards journal, (caller.unwind payload callers host).host =
        { host with
          thread := { host.thread with guards }
          capturedPanics := host.capturedPanics + 1
          journal } := by
  cases caller with
  | code | waiting | stepping | joining | spawning | detaching => cases isGuard
  | _ => exact ⟨rfl, _, _, rfl⟩

theorem Pool.mem_openings {pool : Pool Memory} {worker : Worker Memory} {opening : Opening}
    (member : worker ∈ pool.workers)
    (open_ : opening ∈ worker.focus.openings worker.thread.id) :
    opening ∈ openingsOf opening.run pool.situation.openings :=
  List.mem_filter.2 ⟨List.mem_flatMap.2 ⟨worker, member, open_⟩, decide_eq_true rfl⟩

/-- Panics whose payloads are dropped quietly never cross the run loop, each is captured by one guard,
and the runs go on as if what has panicked had failed. -/
theorem Pool.withstands_chronicle (memory : Memory) (codes : List (Option String × Code Memory .unit))
    (earlier schedule : List Nat) :
    ((Pool.opening memory codes).chronicle earlier).Withstands schedule := by
  have tracked := Pool.tracked_chronicle memory codes earlier
  have ledger := Pool.ledger_chronicle memory codes earlier
  generalize (Pool.opening memory codes).chronicle earlier = chronicle at tracked ledger ⊢
  obtain ⟨counted, numbered⟩ := chronicle.capturedPanics_after schedule
  constructor
  case counted =>
    intro captures
    have split : captures.length = _ :=
      List.length_eq_countP_add_countP fun capture => !capture.2.isCatch
    have caught : (captures.countP fun capture => ¬(!capture.2.isCatch) = true) =
        captures.countP (·.2.isCatch) := by
      congr 1
      funext capture
      simp
    rw [counted, split, caught]
  case numbered => exact numbered
  case balanced => exact chronicle.balance schedule
  case heard => exact chronicle.heard_after schedule
  case entered =>
    intro position last form middle code caller callers thread enters found
    exact Chronicle.encloses_entered enters found schedule
  case called =>
    intro worker _ run call token machine happened
    obtain ⟨rest, caller, callers, goes, waits⟩ :=
      Machine.next_of_called (Machine.shows_of_old happened (by simp))
    exact ⟨rest, caller, callers, goes, waits.isGuard⟩
  case reached =>
    intro worker _ run epoch registration token pending machine happened
    exact Machine.next_of_reached (Machine.shows_of_old happened (by simp))
  case told =>
    intro worker _ run outcome receive machine happened received
    exact Machine.next_of_told happened received
  case enclosed =>
    intro position last form rest code caller callers thread found
    exact Chronicle.encloses_called found schedule
  case captured =>
    intro worker _ payload form rest caller callers isGuard focused machine
    have captures : machine.captures =
        if caller.isGuard then [⟨payload, (machine.host.capture payload).1, caller.isCatch⟩]
        else [] := by
      simp only [machine, Machine.captures, Worker.machine, focused]
    rw [captures, if_pos isGuard, worker.next_of_focus focused]
    exact ⟨rfl, caller.captured_unwind isGuard payload callers machine.host⟩
  case recovered =>
    intro run plan pending token receiver before panic rest listed
    have accounts := tracked run
    rw [listed] at accounts
    generalize chronicle.pool.situation.standings run = standings at accounts ⊢
    generalize receiverOf chronicle.pool.situation.runs run = receiver? at accounts
    cases accounts with
    | born leads => exact ⟨_, rfl, leads.recovers⟩
  case stepped =>
    intro plan token hosts before panic rest happened
    have begins : plan.stepping.Stands token
        (.iterating plan ({} : Stack (Frame Memory)).toList token) :=
      .iterating (by simp [Stack.toList])
    obtain ⟨goal, leads, stands⟩ := begins.after hosts
    rw [happened] at leads
    exact ⟨goal, stands, leads.recovers⟩
  case registered =>
    intro worker member payload run epoch token callers focused machine panic
    have open_ : Opening.mk run epoch token worker.thread.id ∈
        openingsOf run chronicle.pool.situation.openings :=
      Pool.mem_openings member (by rw [focused]; exact .head _)
    have account : Account (recordsOf run chronicle.history)
        (openingsOf run chronicle.pool.situation.openings) (boundaryOf machine.host.runs run) :=
      ledger run
    have unwinds : machine =
        ⟨.unwind payload (.push (.registering run epoch token) callers), machine.host⟩ := by
      simp only [machine, Worker.machine, focused]
    rw [unwinds]
    exact Machine.moves_registering account open_ payload callers
  case failed =>
    intro worker member run epoch token outcome callers focused machine
    have open_ : Opening.mk run epoch token worker.thread.id ∈
        openingsOf run chronicle.pool.situation.openings :=
      Pool.mem_openings member (by rw [focused]; exact .head _)
    obtain ⟨reach, reached, same, completes⟩ := Machine.complete_of_open (ledger run) open_
    rw [worker.next_of_focus focused]
    exact ⟨reach, reached, same, completes outcome _ machine.host rfl rfl⟩
  case received =>
    intro worker _ payload callers focused machine panic
    rw [worker.next_of_focus focused]
    rfl

/-- A thunk panics, the code that names its panic does, and so does the receiver. -/
example :
    let plan : Plan Unit := .suspendWith (fun _ => .panic .other false) fun _ => .panic .other false
    let code : Code Unit .unit :=
      .run plan .uncancelable (fun _ => .panic .other false) fun _ => Code.unit
    ((Pool.opening () [(none, code)]).readings Worker.captures (List.replicate 20 0)).map
      (fun capture => (capture.2.panic.number, capture.2.isCatch)) =
        [(1, false), (2, false), (3, false)] := by
  cbv

end Trampoline
