import Trampoline.Proofs.Move.Upshot
import Trampoline.Proofs.Slimness

/-!
Moves of slim machines.

A stack overflows only where a loop descends with a frame pending, and then the loop needs the
settings.  So as long as these have not been fixed, a slim machine stays slim.
-/

namespace Trampoline

variable {Memory : Type} {last form rest : Form}

/-- If the settings are still not fixed the machine is slim. -/
def Machine.Spares (after : Machine Memory last) : Prop :=
  after.host.settings = none → after.Slim

namespace Machine

variable {host : Host Memory}

theorem slim_finished {callers : Callers Memory last .unit} (below : callers.Slim)
    (slim : host.Slim) : (finished callers host).Slim :=
  ⟨⟨.unit, below⟩, slim⟩

theorem slim_call {code : Code Memory form} {caller : Caller Memory form rest}
    {callers : Callers Memory last rest} (called : code.Slim) (waits : caller.Slim)
    (below : callers.Slim) (slim : host.Slim) : (call code caller callers host).Slim :=
  ⟨⟨called, waits, below⟩, slim.of_same rfl rfl rfl⟩

theorem slim_start {plan : Plan Memory} {pending : Stack (Frame Memory)}
    {callers : Callers Memory last .unit} (token : Token) (receiver : Receiver Memory)
    (first : plan.Slim) (frames : pending.Slim) (receives : receiver.Slim) (below : callers.Slim)
    (slim : host.Slim) :
    (start plan pending token receiver callers host).Slim :=
  ⟨⟨frames, first, below⟩, slim.addRun receives⟩

theorem slim_perform {task : Task Memory} {callers : Callers Memory last .unit} (more : task.Slim)
    (below : callers.Slim) (slim : host.Slim) : (perform task callers host).Slim := by
  cases task with
  | code body => exact ⟨⟨more (), below⟩, slim⟩
  | run source token completer =>
      exact slim_start token (.forward completer) more Stack.slim_empty trivial below slim

theorem slim_spawn (name : Option String) (caller : Caller Memory form rest)
    (body : Callers Memory last form → Host Memory → Machine Memory last)
    {callers : Callers Memory last rest} (waits : caller.Slim) (below : callers.Slim)
    (inner : ∀ callers (host : Host Memory), callers.Slim → host.Slim → (body callers host).Slim)
    (slim : host.Slim) : (spawn name caller body callers host).Slim := by
  unfold spawn
  split
  · exact ⟨⟨.panic, below⟩, slim⟩
  · exact inner _ _ ⟨waits, below⟩ (slim.of_same rfl rfl rfl)

theorem slim_execute {context : Context Memory} {task : Task Memory}
    {callers : Callers Memory last .unit} (contexts : context.Slim) (more : task.Slim)
    (below : callers.Slim) (slim : host.Slim) : (execute context task callers host).Slim := by
  cases contexts with
  | immediate => exact slim_perform more below slim
  | spawner =>
      exact slim_spawn _ (.spawning _) (perform task) trivial below
        (fun _ _ below slim => slim_perform more below slim) (slim.of_same rfl rfl rfl)
  | custom schedules => exact ⟨⟨schedules _, below⟩, slim.addTask more⟩

end Machine

theorem Registration.slim_call {registration : Registration Memory} {token : Token}
    {completer : Completer} {callers : Callers Memory last .unit} {host : Host Memory}
    (registers : registration.Slim) (below : callers.Slim) (slim : host.Slim) :
    (registration.call token completer callers host).Slim := by
  cases registers with
  | calling registers => exact ⟨⟨registers _ _, below⟩, slim⟩
  | hopping first contexts =>
      exact Machine.slim_execute contexts first below (slim.of_same rfl rfl rfl)
  | finishing first overflow top =>
      exact Machine.slim_start token (.forward completer) first ⟨overflow, top⟩ trivial below slim

namespace Loop

open Machine (Spares slim_call)

variable {callers : Callers Memory last form} {host : Host Memory} {pending : Stack (Frame Memory)}
  {token : Token}

theorem slim_stop {callers : Callers Memory last .plan} {head : Plan Memory} (frames : pending.Slim)
    (first : head.Slim) (below : callers.Slim) (slim : host.Slim) :
    (stop pending head callers host).Slim := by
  unfold stop
  split
  · exact ⟨⟨.done (.plan first), below⟩, slim⟩
  · exact ⟨⟨.done (.plan (.async (.finishing first frames.overflow frames.top))), below⟩,
      slim.of_same rfl rfl rfl⟩

/-- A stack that takes its first frame is slim; with a second one the settings are fixed. -/
theorem spares_descend {purpose : Purpose form} {frame : Frame Memory} {source : Plan Memory}
    (frames : pending.Slim) (more : frame.Slim) (first : source.Slim) (below : callers.Slim)
    (slim : host.Slim) : (descend ⟨purpose, pending, token⟩ frame source callers host).Spares := by
  intro missing
  cases free : pending.isOccupied with
  | true =>
      simp only [descend, push, free, if_true, Host.readSettings] at missing
      split at missing
      · rename_i found
        rw [found] at missing
        cases missing
      · cases missing
  | false =>
      refine ⟨⟨frames.push free more, first, below⟩, ?_⟩
      simp only [descend, push, free]
      exact slim

theorem slim_suspend (run : Nat) (token : Token) {registration : Registration Memory}
    {callers : Callers Memory last .unit} (frames : pending.Slim) (registers : registration.Slim)
    (below : callers.Slim) (slim : host.Slim) :
    (suspend ⟨.run run, pending, token⟩ registration callers host).Slim :=
  registration.slim_call registers ⟨trivial, below⟩
    ((slim.setBoundary run (.arm _ token host.thread.id pending) frames).of_same rfl rfl rfl)

theorem spares_advance {purpose : Purpose form} {plan : Plan Memory} (frames : pending.Slim)
    (first : plan.Slim) (below : callers.Slim) (slim : host.Slim) :
    (advance ⟨purpose, pending, token⟩ plan callers host).Spares := by
  cases first with
  | pure | raise => exact fun _ => ⟨⟨frames, below⟩, slim⟩
  | suspendWith thunks names | delayWith thunks names =>
      exact fun _ => slim_call (thunks ()) ⟨frames, names⟩ below slim
  | async registers =>
      cases purpose with
      | run run => exact fun _ => slim_suspend run token frames registers below slim
      | step => exact fun _ => slim_stop frames (.async registers) below slim
  | bind first nexts => exact spares_descend frames (.bind nexts) first below slim
  | map first changes => exact spares_descend frames (.map changes) first below slim
  | handle first handlers => exact spares_descend frames (.handle handlers) first below slim
  | redeem first handlers nexts =>
      exact spares_descend frames (.redeem handlers nexts) first below slim
  | continueOn first contexts =>
      exact fun _ => ⟨⟨frames, .async (.hopping first contexts), below⟩, slim⟩
  | «switch» first modifies restores =>
      cases purpose with
      | run run => exact fun _ => slim_call (modifies token) ⟨frames, first, restores⟩ below slim
      | step => exact fun _ => slim_stop frames (.switch first modifies restores) below slim
  | held => exact fun _ => ⟨⟨frames, slim.held _, below⟩, slim⟩

theorem spares_iterate {loop : Loop Memory form} {plan : Plan Memory} (frames : loop.pending.Slim)
    (first : plan.Slim) (below : callers.Slim) (slim : host.Slim) :
    (loop.iterate plan callers host).Spares := by
  obtain ⟨purpose, pending, token⟩ := loop
  cases purpose with
  | run run =>
      unfold iterate
      dsimp only
      split
      · exact fun _ => ⟨below, slim.of_same rfl rfl rfl⟩
      · exact spares_advance frames first below slim
  | step => exact spares_advance frames first below slim

theorem slim_meet {purpose : Purpose form} {frame : Frame Memory} (result : Result)
    (frames : pending.Slim) (taken : frame.Slim) (below : callers.Slim) (slim : host.Slim) :
    (meet ⟨purpose, pending, token⟩ frame result callers host).Slim := by
  cases taken with
  | bind nexts | map nexts =>
      cases result with
      | ok value => exact slim_call (nexts value) frames below slim
      | error failure => exact ⟨⟨frames, .raise, below⟩, slim⟩
  | handle handlers =>
      cases result with
      | ok value => exact ⟨⟨frames, .raise, below⟩, slim⟩
      | error failure => exact slim_call (handlers failure) frames below slim
  | redeem handlers nexts =>
      cases result with
      | ok value => exact slim_call (nexts value) frames below slim
      | error failure => exact slim_call (handlers failure) frames below slim
  | restore restores => exact slim_call (restores _ _ _) frames below slim

theorem slim_feed {loop : Loop Memory form} (result : Result) (frames : loop.pending.Slim)
    (below : callers.Slim) (slim : host.Slim) : (loop.feed result callers host).Slim := by
  obtain ⟨purpose, pending, token⟩ := loop
  have popped : (frameFor pending result).2.Slim ∧
      ∀ frame, (frameFor pending result).1 = some frame → frame.Slim := by
    cases result <;> exact frames.popWhere _
  unfold feed
  dsimp only
  split
  · cases purpose with
    | run run => exact ⟨below, slim⟩
    | step => exact ⟨⟨.done (.plan (.ofResult result)), below⟩, slim⟩
  · rename_i frame rest found
    rw [found] at popped
    exact slim_meet result popped.1 (popped.2 frame rfl) below slim

theorem slim_changeToken {loop : Loop Memory form} {plan : Plan Memory} (next : Token)
    (event : Event) (callers : Callers Memory last form) (frames : loop.pending.Slim)
    (first : plan.Slim) (below : callers.Slim) (slim : host.Slim) :
    Machine.Slim ⟨.iterate (loop.changeToken next (host.emit event)).1 plan callers,
      (loop.changeToken next (host.emit event)).2⟩ := by
  have emitted : (host.emit event).Slim := slim.of_same rfl rfl rfl
  obtain ⟨purpose, pending, old⟩ := loop
  cases purpose with
  | run run => exact ⟨⟨frames, first, below⟩, emitted.changeToken run next⟩
  | step => exact ⟨⟨frames, first, below⟩, emitted⟩

theorem spares_goUnder {loop : Loop Memory form} (next : Token) {source : Plan Memory}
    {restore : Option (Result → Token → Token → Code Memory .token)} (frames : loop.pending.Slim)
    (first : source.Slim)
    (restores : ∀ back, restore = some back → ∀ result old token, (back result old token).Slim)
    (below : callers.Slim) (slim : host.Slim) :
    (loop.goUnder next source restore callers host).Spares := by
  unfold goUnder
  split
  · exact fun _ => ⟨⟨frames, first, below⟩, slim⟩
  · have changed := slim_changeToken next (.switched loop.token.number next.number) callers frames
      first below slim
    cases restore with
    | none => exact fun _ => changed
    | some back =>
        exact spares_descend changed.focus.1 (.restore (restores back rfl)) first below changed.host

theorem slim_goBackTo {loop : Loop Memory form} (next : Token) (result : Result)
    (frames : loop.pending.Slim) (below : callers.Slim) (slim : host.Slim) :
    (loop.goBackTo next result callers host).Slim := by
  unfold goBackTo
  split
  · exact ⟨⟨frames, .ofResult result, below⟩, slim⟩
  · exact slim_changeToken next _ callers frames (.ofResult result) below slim

end Loop

namespace Machine

variable {host : Host Memory} {callers : Callers Memory last .unit}

theorem slim_goingOn {outcome : Outcome Value} {pending : Stack (Frame Memory)} (run : Nat)
    (token : Token) (frames : pending.Slim) (below : callers.Slim) :
    (Focus.goingOn run outcome pending token callers).Slim := by
  cases outcome with
  | completed value => exact ⟨frames, .pure, below⟩
  | failed failure => exact ⟨frames, .raise, below⟩
  | canceled => exact below

theorem Detached.slim {run epoch : Nat} {token : Token} {after : Machine Memory last}
    (detached : Detached host run epoch token callers after) (below : callers.Slim)
    (slim : host.Slim) : after.Slim := by
  cases detached with
  | unbounded => exact slim_finished below slim
  | crossed found => exact slim_finished below (slim.setBoundary run _ (slim.boundary? found))
  | waits found _ held =>
      have phase := slim.boundary? found
      rw [held] at phase
      exact slim_finished below (slim.setBoundary run _ phase)
  | takesUp found _ held =>
      have phase := slim.boundary? found
      rw [held] at phase
      exact ⟨slim_goingOn run token phase below, slim.cross run _ (.completedInline epoch)⟩

theorem Completed.slim {completer : Completer} {outcome : Outcome Value}
    {after : Machine Memory last} (completed : Completed host completer outcome callers after)
    (below : callers.Slim) (slim : host.Slim) : after.Slim := by
  cases completed with
  | ignored => exact slim_finished below (slim.of_same rfl rfl rfl)
  | parked found _ held =>
      have phase := slim.boundary? found
      rw [held] at phase
      exact slim_finished below (slim.setBoundary _ _ phase)
  | @resumes boundary pending found _ held =>
      have phase := slim.boundary? found
      have frames : pending.Slim := by
        rcases held with ⟨_, held, _⟩ | held <;> (rw [held] at phase; exact phase)
      exact ⟨slim_goingOn completer.run boundary.token frames below,
        slim.cross completer.run boundary (.resuming completer.epoch)⟩

theorem Ended.slim {run : Nat} {outcome : Outcome Value} {after : Machine Memory last}
    (ended : Ended host run outcome callers after) (below : callers.Slim) (slim : host.Slim) :
    after.Slim := by
  have told : (host.tell run outcome).Slim :=
    slim.modify run _ fun _ before => ⟨before.receiver, before.boundary⟩
  have guarded : (host.tell run outcome).openGuard.Slim := told.of_same rfl rfl rfl
  cases ended with
  | unknown => exact slim_finished below slim
  | told => exact slim_finished below (slim.of_same rfl rfl rfl)
  | calls found => exact ⟨⟨(slim.runs run _ found).receiver outcome, trivial, below⟩, guarded⟩
  | forwards => exact ⟨⟨trivial, below⟩, guarded⟩
  | drops => exact slim_finished ⟨trivial, below⟩ guarded

theorem spares_answer {callers : Callers Memory last form} {answer : Answer Memory form}
    (answers : answer.Slim) (below : callers.Slim) (slim : host.Slim) :
    (callers.answer answer host).Spares := by
  have closed : host.closeGuard.Slim := slim.of_same rfl rfl rfl
  cases callers with
  | bottom => exact fun _ => ⟨trivial, slim⟩
  | push caller callers =>
      obtain ⟨waits, below⟩ := below
      cases caller with
      | code next => cases answer; exact fun _ => ⟨⟨waits (), below⟩, slim⟩
      | waiting run next => cases answer; exact fun _ => ⟨⟨waits _, below⟩, slim⟩
      | stepping next =>
          cases answers with
          | plan first => exact fun _ => ⟨⟨waits _, below⟩, slim.keep first⟩
      | joining outer next =>
          cases answer
          exact fun _ => ⟨⟨waits _, below⟩, slim.of_same rfl rfl rfl⟩
      | spawning outer => cases answer; exact fun _ => slim_finished below (slim.of_same rfl rfl rfl)
      | guarding next => cases answer; exact fun _ => ⟨⟨waits _, below⟩, closed⟩
      | suspended loop onPanic =>
          cases answers with
          | plan first => exact fun _ => ⟨⟨waits.1, first, below⟩, closed⟩
      | delayed loop onPanic => cases answer; exact fun _ => ⟨⟨waits.1, below⟩, closed⟩
      | namingSuspended loop => cases answer; exact fun _ => ⟨⟨waits, .raise, below⟩, closed⟩
      | namingDelayed loop => cases answer; exact fun _ => ⟨⟨waits, below⟩, closed⟩
      | continuing loop =>
          cases answers with
          | plan first => exact fun _ => ⟨⟨waits, first, below⟩, closed⟩
      | mapping loop => cases answer; exact fun _ => ⟨⟨waits, .pure, below⟩, closed⟩
      | switching loop source restore =>
          cases answer
          exact Loop.spares_goUnder _ waits.1 waits.2.1 waits.2.2 below closed
      | restoring loop result =>
          cases answer
          exact fun _ => Loop.slim_goBackTo _ result waits below closed
      | registering run epoch token => cases answer; exact fun _ => (detached ..).slim below closed
      | detaching run epoch token => cases answer; exact fun _ => (detached ..).slim below slim
      | telling => cases answer; exact fun _ => slim_finished below closed

theorem slim_unwind {callers : Callers Memory last form} (payload : Payload) (below : callers.Slim)
    (slim : host.Slim) : (callers.unwind payload host).Slim := by
  have caught : (host.capture payload).2.Slim := slim.of_same rfl rfl rfl
  cases callers with
  | bottom => exact ⟨trivial, slim⟩
  | push caller callers =>
      obtain ⟨waits, below⟩ := below
      cases caller with
      | guarding next => exact ⟨⟨waits _, below⟩, caught⟩
      | suspended loop onPanic => exact slim_call (waits.2 _) waits.1 below caught
      | delayed loop onPanic => exact slim_call (waits.2 _) waits.1 below caught
      | namingDelayed loop => exact ⟨⟨waits, below⟩, caught⟩
      | namingSuspended loop | continuing loop | mapping loop | restoring loop =>
          exact ⟨⟨waits, .raise, below⟩, caught⟩
      | switching loop source restore => exact ⟨⟨waits.1, .raise, below⟩, caught⟩
      | registering run epoch token => exact ⟨⟨trivial, below⟩, caught⟩
      | telling => exact slim_finished below (caught.of_same rfl rfl rfl)
      | joining outer next => exact ⟨⟨waits _, below⟩, slim.of_same rfl rfl rfl⟩
      | spawning outer => exact slim_finished below (slim.of_same rfl rfl rfl)
      | code | waiting | stepping | detaching => exact ⟨below, slim⟩

theorem slim_reply (request : Request Memory) (slim : host.Slim) : (host.reply request).2.Slim := by
  cases request <;> simp only [Host.reply, Host.readSettings, Host.install] <;> (try split) <;>
    exact slim.of_same rfl rfl rfl

theorem spares_evaluate {code : Code Memory form} {callers : Callers Memory last form}
    (called : code.Slim) (below : callers.Slim) (slim : host.Slim) :
    (evaluate code callers host).Spares := by
  cases called with
  | done answers => exact spares_answer answers below slim
  | ask nexts => exact fun _ => ⟨⟨nexts _, below⟩, slim_reply _ slim⟩
  | @panic payload silent =>
      refine fun _ => ⟨below, ?_⟩
      simp only [evaluate, Host.report]
      split
      · exact slim
      · split <;> exact slim.of_same rfl rfl rfl
  | guard bodies nexts => exact fun _ => slim_call (bodies ()) nexts below slim
  | @onThread _ name body next bodies nexts =>
      exact fun _ => slim_spawn name (.joining host.thread next)
        (fun callers host => ⟨.code (body ()) callers, host⟩) nexts below
        (fun _ _ below slim => ⟨⟨bodies (), below⟩, slim⟩) slim
  | @run _ source token receive next first receives nexts =>
      exact fun _ => slim_start token (.code receive) first Stack.slim_empty receives
        ⟨nexts, below⟩ slim
  | @runSync _ source token next first nexts =>
      exact fun _ => slim_start token .nobody first Stack.slim_empty trivial ⟨nexts, below⟩ slim
  | step first nexts => exact fun _ => ⟨⟨Stack.slim_empty, first, nexts, below⟩, slim⟩
  | complete nexts => exact fun _ => ⟨⟨nexts, below⟩, slim⟩
  | execute contexts tasks nexts =>
      exact fun _ => slim_execute contexts tasks ⟨nexts, below⟩ slim
  | @runTask _ task next nexts =>
      have taken := slim.takeTask task
      simp only [evaluate]
      split
      · rename_i after found
        rw [found] at taken
        exact fun _ => ⟨⟨nexts (), below⟩, taken⟩
      · rename_i given after found
        rw [found] at taken
        have more : given.Slim := slim.tasks task given (Host.task_of_taken found)
        exact fun _ => slim_perform more ⟨nexts, below⟩ taken

/-- As long as the settings are not fixed a slim machine stays slim. -/
theorem Slim.next {machine : Machine Memory last} (slim : machine.Slim) : machine.next.Spares := by
  obtain ⟨focus, host⟩ := machine
  obtain ⟨going, slim⟩ := slim
  cases focus with
  | code code callers => exact spares_evaluate going.1 going.2 slim
  | iterate loop plan callers => exact Loop.spares_iterate going.1 going.2.1 going.2.2 slim
  | feed loop result callers => exact fun _ => Loop.slim_feed result going.1 going.2 slim
  | finish run outcome callers => exact fun _ => (ended ..).slim going slim
  | complete completer outcome callers => exact fun _ => (completed ..).slim going slim
  | unwind payload callers => exact fun _ => slim_unwind payload going slim
  | halted ending => exact fun _ => ⟨trivial, slim⟩

end Machine

end Trampoline
