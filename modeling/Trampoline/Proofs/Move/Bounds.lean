import Trampoline.Proofs.Bounds
import Trampoline.Proofs.Completion

/-!
Moves of machines that respect bounds.

All that a machine does not come up with by itself stays within the bounds, and of itself it comes up
with two kinds of failures: panics, which bounds allow, and those of a broken invariant.  The latter
it would raise where a frame is met by a result it does not take; but the frame that a result goes to
is one that takes it.
-/

namespace Trampoline

variable {Memory : Type} {last form rest : Form} {bounds : Bounds Memory}

namespace Machine

variable {host : Host Memory}

theorem respects_finished {callers : Callers Memory last .unit} (below : callers.Respects bounds)
    (respects : host.Respects bounds) : (finished callers host).Respects bounds :=
  ⟨⟨.unit, below⟩, respects⟩

theorem respects_call {code : Code Memory form} {caller : Caller Memory form rest}
    {callers : Callers Memory last rest} (called : code.Respects bounds)
    (waits : caller.Respects bounds) (below : callers.Respects bounds)
    (respects : host.Respects bounds) : (call code caller callers host).Respects bounds :=
  ⟨⟨called, waits, below⟩, respects.of_same rfl rfl rfl rfl⟩

theorem respects_start {plan : Plan Memory} {pending : Stack (Frame Memory)}
    {callers : Callers Memory last .unit} (token : Token) (receiver : Receiver Memory)
    (first : plan.Respects bounds) (frames : pending.Respects bounds)
    (receives : receiver.Respects bounds) (below : callers.Respects bounds)
    (respects : host.Respects bounds) :
    (start plan pending token receiver callers host).Respects bounds :=
  ⟨⟨frames, first, below⟩, respects.addRun receives⟩

theorem respects_perform {task : Task Memory} {callers : Callers Memory last .unit}
    (more : task.Respects bounds) (below : callers.Respects bounds)
    (respects : host.Respects bounds) : (perform task callers host).Respects bounds := by
  cases task with
  | code body => exact ⟨⟨more, below⟩, respects⟩
  | run source token completer =>
      exact respects_start token (.forward completer) more Stack.respects_empty trivial below
        respects

theorem respects_spawn (name : Option String) (caller : Caller Memory form rest)
    (body : Callers Memory last form → Host Memory → Machine Memory last)
    {callers : Callers Memory last rest} (waits : caller.Respects bounds)
    (below : callers.Respects bounds)
    (inner : ∀ callers host, callers.Respects bounds → Host.Respects bounds host →
      (body callers host).Respects bounds)
    (respects : host.Respects bounds) : (spawn name caller body callers host).Respects bounds := by
  unfold spawn
  split
  · exact ⟨⟨.panic, below⟩, respects⟩
  · exact inner _ _ ⟨waits, below⟩ (respects.of_same rfl rfl rfl rfl)

theorem respects_execute {context : Context Memory} {task : Task Memory}
    {callers : Callers Memory last .unit} (contexts : context.Respects bounds)
    (more : task.Respects bounds) (below : callers.Respects bounds)
    (respects : host.Respects bounds) : (execute context task callers host).Respects bounds := by
  cases contexts with
  | immediate => exact respects_perform more below respects
  | spawner =>
      exact respects_spawn _ (.spawning _) (perform task) trivial below
        (fun _ _ below respects => respects_perform more below respects)
        (respects.of_same rfl rfl rfl rfl)
  | custom schedules => exact ⟨⟨schedules _, below⟩, respects.addTask more⟩

end Machine

theorem Registration.respects_call {registration : Registration Memory} {token : Token}
    {completer : Completer} {callers : Callers Memory last .unit} {host : Host Memory}
    (registers : registration.Respects bounds) (below : callers.Respects bounds)
    (respects : host.Respects bounds) :
    (registration.call token completer callers host).Respects bounds := by
  cases registers with
  | calling registers => exact ⟨⟨registers _ _, below⟩, respects⟩
  | hopping first contexts =>
      exact Machine.respects_execute contexts first below (respects.of_same rfl rfl rfl rfl)
  | finishing first frames =>
      exact Machine.respects_start token (.forward completer) first frames trivial below respects

namespace Loop

open Machine (respects_call)

variable {callers : Callers Memory last form} {host : Host Memory} {pending : Stack (Frame Memory)}
  {token : Token}

theorem respects_stop {callers : Callers Memory last .plan} {head : Plan Memory}
    (frames : pending.Respects bounds) (first : head.Respects bounds)
    (below : callers.Respects bounds) (respects : host.Respects bounds) :
    (stop pending head callers host).Respects bounds := by
  unfold stop
  split
  · exact ⟨⟨.done (.plan first), below⟩, respects⟩
  · exact ⟨⟨.done (.plan (.async (.finishing first frames))), below⟩,
      respects.of_same rfl rfl rfl rfl⟩

theorem respects_descend {purpose : Purpose form} {frame : Frame Memory} {source : Plan Memory}
    (frames : pending.Respects bounds) (more : frame.Respects bounds)
    (first : source.Respects bounds) (below : callers.Respects bounds)
    (respects : host.Respects bounds) :
    (descend ⟨purpose, pending, token⟩ frame source callers host).Respects bounds := by
  refine ⟨⟨frames.push more, first, below⟩, ?_⟩
  unfold descend push Host.readSettings
  dsimp only
  split
  · split
    · exact respects
    · exact respects.of_same rfl rfl rfl rfl
  · exact respects

theorem respects_suspend (run : Nat) (token : Token) {registration : Registration Memory}
    {callers : Callers Memory last .unit} (frames : pending.Respects bounds)
    (registers : registration.Respects bounds) (below : callers.Respects bounds)
    (respects : host.Respects bounds) :
    (suspend ⟨.run run, pending, token⟩ registration callers host).Respects bounds :=
  registration.respects_call registers ⟨trivial, below⟩
    ((respects.setBoundary run (.arm _ token host.thread.id pending) frames).of_same rfl rfl rfl rfl)

theorem respects_advance {purpose : Purpose form} {plan : Plan Memory}
    (frames : pending.Respects bounds) (first : plan.Respects bounds)
    (below : callers.Respects bounds) (respects : host.Respects bounds) :
    (advance ⟨purpose, pending, token⟩ plan callers host).Respects bounds := by
  cases first with
  | pure values => exact ⟨⟨frames, values, below⟩, respects⟩
  | raise bounded => exact ⟨⟨frames, bounded, below⟩, respects⟩
  | suspendWith thunks names | delayWith thunks names =>
      exact respects_call thunks ⟨frames, names⟩ below respects
  | async registers =>
      cases purpose with
      | run run => exact respects_suspend run token frames registers below respects
      | step => exact respects_stop frames (.async registers) below respects
  | bind first nexts => exact respects_descend frames (.bind nexts) first below respects
  | map first changes => exact respects_descend frames (.map changes) first below respects
  | handle first handlers => exact respects_descend frames (.handle handlers) first below respects
  | redeem first handlers nexts =>
      exact respects_descend frames (.redeem handlers nexts) first below respects
  | continueOn first contexts =>
      exact ⟨⟨frames, .async (.hopping first contexts), below⟩, respects⟩
  | «switch» first modifies restores =>
      cases purpose with
      | run run => exact respects_call (modifies token) ⟨frames, first, restores⟩ below respects
      | step => exact respects_stop frames (.switch first modifies restores) below respects
  | held => exact ⟨⟨frames, respects.held _, below⟩, respects⟩

theorem respects_iterate {loop : Loop Memory form} {plan : Plan Memory}
    (frames : loop.pending.Respects bounds) (first : plan.Respects bounds)
    (below : callers.Respects bounds) (respects : host.Respects bounds) :
    (loop.iterate plan callers host).Respects bounds := by
  obtain ⟨purpose, pending, token⟩ := loop
  cases purpose with
  | run run =>
      unfold iterate
      dsimp only
      split
      · exact ⟨⟨trivial, below⟩, respects.of_same rfl rfl rfl rfl⟩
      · exact respects_advance frames first below respects
  | step => exact respects_advance frames first below respects

theorem respects_conclude {loop : Loop Memory form} {result : Result}
    (results : Result.Respects bounds result) (below : callers.Respects bounds)
    (respects : host.Respects bounds) : (loop.conclude result callers host).Respects bounds := by
  obtain ⟨purpose, pending, token⟩ := loop
  cases purpose with
  | run run => exact ⟨⟨.ofResult results, below⟩, respects⟩
  | step => exact ⟨⟨.done (.plan (.ofResult results)), below⟩, respects⟩

theorem respects_frameFor {result : Result} {frame : Frame Memory} {below : Stack (Frame Memory)}
    (token : Token) (frames : pending.Respects bounds)
    (found : frameFor pending result = (some frame, below)) :
    (frame.call? result token).isSome = true ∧ frame.Respects bounds ∧ below.Respects bounds := by
  cases result with
  | ok value =>
      obtain ⟨accepted, taken⟩ := frames.popWhere _ found
      have takes : ∃ call, frame.call? (.ok value) token = some call :=
        Frame.call?_of_accepts token accepted
      exact ⟨Option.isSome_iff_exists.2 takes, taken⟩
  | error failure =>
      obtain ⟨accepted, taken⟩ := frames.popWhere _ found
      have takes : ∃ call, frame.call? (.error failure) token = some call :=
        Frame.call?_of_accepts token accepted
      exact ⟨Option.isSome_iff_exists.2 takes, taken⟩

theorem respects_meet {purpose : Purpose form} {frame : Frame Memory} {result : Result}
    (accepted : (frame.call? result token).isSome = true) (frames : pending.Respects bounds)
    (taken : frame.Respects bounds) (results : Result.Respects bounds result)
    (below : callers.Respects bounds) (respects : host.Respects bounds) :
    (meet ⟨purpose, pending, token⟩ frame result callers host).Respects bounds := by
  cases taken with
  | bind nexts | map nexts =>
      cases result with
      | ok value => exact respects_call (nexts value results) frames below respects
      | error failure => cases accepted
  | handle handlers =>
      cases result with
      | ok value => cases accepted
      | error failure => exact respects_call (handlers failure results) frames below respects
  | redeem handlers nexts =>
      cases result with
      | ok value => exact respects_call (nexts value results) frames below respects
      | error failure => exact respects_call (handlers failure results) frames below respects
  | restore restores =>
      exact respects_call (restores _ _ _ results) ⟨frames, results⟩ below respects

theorem respects_feed {loop : Loop Memory form} {result : Result}
    (frames : loop.pending.Respects bounds) (results : Result.Respects bounds result)
    (below : callers.Respects bounds) (respects : host.Respects bounds) :
    (loop.feed result callers host).Respects bounds := by
  obtain ⟨purpose, pending, token⟩ := loop
  unfold feed
  dsimp only
  split
  · exact respects_conclude results below respects
  · rename_i frame rest found
    obtain ⟨accepted, taken, frames⟩ := respects_frameFor token frames found
    exact respects_meet accepted frames taken results below respects

theorem respects_changeToken {loop : Loop Memory form} {plan : Plan Memory} (next : Token)
    (event : Event) (callers : Callers Memory last form) (frames : loop.pending.Respects bounds)
    (first : plan.Respects bounds) (below : callers.Respects bounds)
    (respects : host.Respects bounds) :
    Machine.Respects bounds ⟨.iterate (loop.changeToken next (host.emit event)).1 plan callers,
      (loop.changeToken next (host.emit event)).2⟩ := by
  have emitted : (host.emit event).Respects bounds := respects.of_same rfl rfl rfl rfl
  obtain ⟨purpose, pending, old⟩ := loop
  cases purpose with
  | run run => exact ⟨⟨frames, first, below⟩, emitted.changeToken run next⟩
  | step => exact ⟨⟨frames, first, below⟩, emitted⟩

theorem respects_goUnder {loop : Loop Memory form} (next : Token) {source : Plan Memory}
    {restore : Option (Result → Token → Token → Code Memory .token)}
    (frames : loop.pending.Respects bounds) (first : source.Respects bounds)
    (restores : ∀ back ∈ restore, ∀ result old token, Result.Respects bounds result →
      (back result old token).Respects bounds)
    (below : callers.Respects bounds) (respects : host.Respects bounds) :
    (loop.goUnder next source restore callers host).Respects bounds := by
  unfold goUnder
  split
  · exact ⟨⟨frames, first, below⟩, respects⟩
  · have changed := respects_changeToken next (.switched loop.token.number next.number) callers
      frames first below respects
    cases restore with
    | none => exact changed
    | some back =>
        exact respects_descend changed.focus.1 (.restore (restores back rfl)) first below
          changed.host

theorem respects_goBackTo {loop : Loop Memory form} (next : Token) {result : Result}
    (frames : loop.pending.Respects bounds) (results : Result.Respects bounds result)
    (below : callers.Respects bounds) (respects : host.Respects bounds) :
    (loop.goBackTo next result callers host).Respects bounds := by
  unfold goBackTo
  split
  · exact ⟨⟨frames, .ofResult results, below⟩, respects⟩
  · exact respects_changeToken next _ callers frames (.ofResult results) below respects

end Loop

namespace Machine

variable {host : Host Memory} {callers : Callers Memory last .unit}

theorem respects_goingOn {outcome : Outcome Value} {pending : Stack (Frame Memory)} (run : Nat)
    (token : Token) (within : outcome.Respects bounds) (frames : pending.Respects bounds)
    (below : callers.Respects bounds) :
    (Focus.goingOn run outcome pending token callers).Respects bounds := by
  cases outcome with
  | completed value => exact ⟨frames, .pure within, below⟩
  | failed failure => exact ⟨frames, .raise within, below⟩
  | canceled => exact ⟨trivial, below⟩

theorem Detached.respects {run epoch : Nat} {token : Token} {after : Machine Memory last}
    (detached : Detached host run epoch token callers after) (below : callers.Respects bounds)
    (respects : host.Respects bounds) : after.Respects bounds := by
  cases detached with
  | unbounded => exact respects_finished below respects
  | crossed found =>
      exact respects_finished below (respects.setBoundary run _ (respects.boundary? found))
  | waits found _ held =>
      have phase := respects.boundary? found
      rw [held] at phase
      exact respects_finished below (respects.setBoundary run _ phase)
  | takesUp found _ held =>
      have phase := respects.boundary? found
      rw [held] at phase
      exact ⟨respects_goingOn run token phase.2 phase.1 below,
        respects.cross run _ (.completedInline epoch)⟩

theorem Completed.respects {completer : Completer} {outcome : Outcome Value}
    {after : Machine Memory last} (completed : Completed host completer outcome callers after)
    (within : outcome.Respects bounds) (below : callers.Respects bounds)
    (respects : host.Respects bounds) : after.Respects bounds := by
  cases completed with
  | ignored => exact respects_finished below (respects.of_same rfl rfl rfl rfl)
  | parked found _ held =>
      have phase := respects.boundary? found
      rw [held] at phase
      exact respects_finished below (respects.setBoundary _ _ ⟨phase, within⟩)
  | @resumes boundary pending found _ held =>
      have phase := respects.boundary? found
      have frames : pending.Respects bounds := by
        rcases held with ⟨_, held, _⟩ | held <;> (rw [held] at phase; exact phase)
      exact ⟨respects_goingOn completer.run boundary.token within frames below,
        respects.cross completer.run boundary (.resuming completer.epoch)⟩

theorem Ended.respects {run : Nat} {outcome : Outcome Value} {after : Machine Memory last}
    (ended : Ended host run outcome callers after) (within : outcome.Respects bounds)
    (below : callers.Respects bounds) (respects : host.Respects bounds) :
    after.Respects bounds := by
  have guarded : (host.tell run outcome).openGuard.Respects bounds :=
    (respects.tell run within).of_same rfl rfl rfl rfl
  cases ended with
  | unknown => exact respects_finished below respects
  | told => exact respects_finished below (respects.of_same rfl rfl rfl rfl)
  | calls found =>
      have receives := (respects.holds.runs run _ found).receiver
      exact ⟨⟨receives outcome within, trivial, below⟩, guarded⟩
  | forwards => exact ⟨⟨within, trivial, below⟩, guarded⟩
  | drops => exact respects_finished ⟨trivial, below⟩ guarded

theorem respects_answer {callers : Callers Memory last form} {answer : Answer Memory form}
    (answers : answer.Respects bounds) (below : callers.Respects bounds)
    (respects : host.Respects bounds) : (callers.answer answer host).Respects bounds := by
  have closed : host.closeGuard.Respects bounds := respects.of_same rfl rfl rfl rfl
  cases callers with
  | bottom => exact ⟨trivial, respects⟩
  | push caller callers =>
      obtain ⟨waits, below⟩ := below
      cases caller with
      | code next => cases answers; exact ⟨⟨waits, below⟩, respects⟩
      | waiting run next =>
          cases answers
          exact ⟨⟨waits _ fun _ found => respects.outcome? found, below⟩, respects⟩
      | stepping next =>
          cases answers with
          | plan first => exact ⟨⟨waits _, below⟩, respects.keep first⟩
      | joining outer next =>
          cases answers with
          | value values =>
              refine ⟨⟨waits _ fun _ same => ?_, below⟩, respects.of_same rfl rfl rfl rfl⟩
              cases same
              exact values
      | spawning outer =>
          cases answers
          exact respects_finished below (respects.of_same rfl rfl rfl rfl)
      | guarding next =>
          cases answers with
          | value values =>
              refine ⟨⟨waits _ fun _ same => ?_, below⟩, closed⟩
              cases same
              exact values
      | suspended loop onPanic =>
          cases answers with
          | plan first => exact ⟨⟨waits.1, first, below⟩, closed⟩
      | delayed loop onPanic =>
          cases answers with
          | value values => exact ⟨⟨waits.1, values, below⟩, closed⟩
      | namingSuspended loop =>
          cases answers with
          | failure bounded => exact ⟨⟨waits, .raise bounded, below⟩, closed⟩
      | namingDelayed loop =>
          cases answers with
          | failure bounded => exact ⟨⟨waits, bounded, below⟩, closed⟩
      | continuing loop =>
          cases answers with
          | plan first => exact ⟨⟨waits, first, below⟩, closed⟩
      | mapping loop =>
          cases answers with
          | value values => exact ⟨⟨waits, .pure values, below⟩, closed⟩
      | switching loop source restore =>
          cases answers
          exact Loop.respects_goUnder _ waits.1 waits.2.1 waits.2.2 below closed
      | restoring loop result =>
          cases answers
          exact Loop.respects_goBackTo _ waits.1 waits.2 below closed
      | registering run epoch token =>
          cases answers
          exact (detached ..).respects below closed
      | detaching run epoch token =>
          cases answers
          exact (detached ..).respects below respects
      | telling => cases answers; exact respects_finished below closed

theorem respects_unwind {callers : Callers Memory last form} (payload : Payload)
    (below : callers.Respects bounds) (respects : host.Respects bounds) :
    (callers.unwind payload host).Respects bounds := by
  have caught : (host.capture payload).2.Respects bounds := respects.of_same rfl rfl rfl rfl
  cases callers with
  | bottom => exact ⟨trivial, respects⟩
  | push caller callers =>
      obtain ⟨waits, below⟩ := below
      cases caller with
      | guarding next => exact ⟨⟨waits _ nofun, below⟩, caught⟩
      | suspended loop onPanic => exact respects_call (waits.2 _) waits.1 below caught
      | delayed loop onPanic => exact respects_call (waits.2 _) waits.1 below caught
      | namingDelayed loop => exact ⟨⟨waits, bounds.panicked _, below⟩, caught⟩
      | namingSuspended loop | continuing loop | mapping loop =>
          exact ⟨⟨waits, .raise (bounds.panicked _), below⟩, caught⟩
      | restoring loop result | «switching» loop source restore =>
          exact ⟨⟨waits.1, .raise (bounds.panicked _), below⟩, caught⟩
      | registering run epoch token => exact ⟨⟨bounds.panicked _, trivial, below⟩, caught⟩
      | telling => exact respects_finished below (caught.of_same rfl rfl rfl rfl)
      | joining outer next => exact ⟨⟨waits _ nofun, below⟩, respects.of_same rfl rfl rfl rfl⟩
      | spawning outer => exact respects_finished below (respects.of_same rfl rfl rfl rfl)
      | code | waiting | stepping | detaching => exact ⟨below, respects⟩

theorem respects_reply {request : Request Memory} (asks : request.Respects bounds)
    (respects : host.Respects bounds) :
    request.Gives bounds (host.reply request).1 ∧ (host.reply request).2.Respects bounds := by
  cases request with
  | «recall» => exact ⟨respects.memory, respects⟩
  | modify change => exact ⟨trivial, asks _ respects.memory, respects.holds.of_same rfl rfl rfl⟩
  | _ =>
      refine ⟨trivial, ?_⟩
      simp only [Host.reply, Host.readSettings, Host.install]
      (try split) <;> exact respects.of_same rfl rfl rfl rfl

theorem respects_evaluate {code : Code Memory form} {callers : Callers Memory last form}
    (called : code.Respects bounds) (below : callers.Respects bounds)
    (respects : host.Respects bounds) : (evaluate code callers host).Respects bounds := by
  cases called with
  | done answers => exact respects_answer answers below respects
  | ask asks nexts =>
      obtain ⟨gives, replied⟩ := respects_reply asks respects
      exact ⟨⟨nexts _ gives, below⟩, replied⟩
  | @panic payload silent =>
      refine ⟨below, ?_⟩
      simp only [evaluate, Host.report]
      split
      · exact respects
      · split <;> exact respects.of_same rfl rfl rfl rfl
  | guard bodies nexts => exact respects_call bodies nexts below respects
  | @onThread _ name body next bodies nexts =>
      exact respects_spawn name (.joining host.thread next)
        (fun callers host => ⟨.code (body ()) callers, host⟩) nexts below
        (fun _ _ below respects => ⟨⟨bodies, below⟩, respects⟩) respects
  | @run _ source token receive next first receives nexts =>
      exact respects_start token (.code receive) first Stack.respects_empty receives
        ⟨nexts, below⟩ respects
  | @runSync _ source token next first nexts =>
      exact respects_start token .nobody first Stack.respects_empty trivial ⟨nexts, below⟩ respects
  | step first nexts => exact ⟨⟨Stack.respects_empty, first, nexts, below⟩, respects⟩
  | complete results nexts => exact ⟨⟨.ofResult results, nexts, below⟩, respects⟩
  | execute contexts tasks nexts =>
      exact respects_execute contexts tasks ⟨nexts, below⟩ respects
  | @runTask _ task next nexts =>
      have taken := respects.takeTask task
      simp only [evaluate]
      split
      · rename_i after found
        rw [found] at taken
        exact ⟨⟨nexts, below⟩, taken⟩
      · rename_i given after found
        rw [found] at taken
        have more : given.Respects bounds :=
          respects.holds.tasks task given (Host.task_of_taken found)
        exact respects_perform more ⟨nexts, below⟩ taken

/-- A machine that respects bounds goes on to do so. -/
theorem Respects.next {machine : Machine Memory last} (respects : machine.Respects bounds) :
    machine.next.Respects bounds := by
  obtain ⟨focus, host⟩ := machine
  obtain ⟨going, respects⟩ := respects
  cases focus with
  | code code callers => exact respects_evaluate going.1 going.2 respects
  | iterate loop plan callers => exact Loop.respects_iterate going.1 going.2.1 going.2.2 respects
  | feed loop result callers => exact Loop.respects_feed going.1 going.2.1 going.2.2 respects
  | finish run outcome callers => exact (ended ..).respects going.1 going.2 respects
  | complete completer outcome callers =>
      exact (completed ..).respects going.1 going.2 respects
  | unwind payload callers => exact respects_unwind payload going respects
  | halted ending => exact ⟨trivial, respects⟩

end Machine

structure Chronicle.Respects (bounds : Bounds Memory) (chronicle : Chronicle Memory) : Prop where
  workers : ∀ worker ∈ chronicle.pool.workers, worker.focus.Respects bounds
  host : chronicle.pool.host.Respects bounds

theorem Chronicle.Respects.move {chronicle : Chronicle Memory} (respects : chronicle.Respects bounds)
    (position : Nat) : (chronicle.move position).Respects bounds := by
  obtain ⟨workers, host⟩ := respects
  have moved (worker : Worker Memory) (member : worker ∈ chronicle.pool.workers) :
      (worker.machine chronicle.pool.host).next.Respects bounds :=
    Machine.Respects.next ⟨workers worker member, host.of_same rfl rfl rfl rfl⟩
  constructor
  · exact Pool.forall_workers_move workers fun worker found =>
      (moved worker (List.mem_of_getElem? found)).focus
  · cases found : chronicle.pool.workers[position]? with
    | none =>
        rw [Chronicle.move, Pool.move_of_none found]
        exact host
    | some worker =>
        rw [Chronicle.move, Pool.move_of_worker found]
        exact (moved worker (List.mem_of_getElem? found)).host

/-- What programs that respect bounds come to does so, whatever the schedule. -/
theorem Pool.respects_chronicle {memory : Memory}
    {codes : List (Option String × Code Memory .unit)} (within : bounds.memory memory)
    (respects : ∀ entry ∈ codes, entry.2.Respects bounds) (schedule : List Nat) :
    ((Pool.opening memory codes).chronicle schedule).Respects bounds := by
  refine Pool.chronicle_induction _ ?_ (fun _ position before => before.move position) schedule
  refine ⟨fun worker member => ?_, within, nofun, nofun, nofun⟩
  obtain ⟨position, bound, rfl⟩ := List.mem_mapIdx.1 member
  exact ⟨respects _ (List.getElem_mem bound), trivial⟩

end Trampoline
