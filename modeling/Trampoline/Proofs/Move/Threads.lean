import Trampoline.Proofs.Move.Next
import Trampoline.Proofs.Move.Upshot
import Trampoline.Proofs.Showing

/-!
On which threads loops are open.

Who waits for code waits on the thread on which it has called that code, and goes on there.  A loop
comes to be open on a thread when a run is started there, when a completion that is made there is
accepted, or when a registration that was called there takes up what has been parked for it.
-/

namespace Trampoline

variable {Memory : Type} {last : Form}

def Loop.places {form : Form} (loop : Loop Memory form) (thread : Nat) : List (Nat × Nat) :=
  match loop.purpose with
  | .run run => [(run, thread)]
  | .step => []

def Caller.places {form rest : Form} (thread : Nat) : Caller Memory form rest → List (Nat × Nat)
  | .suspended loop _ | .delayed loop _ | .namingSuspended loop | .namingDelayed loop
  | .continuing loop | .mapping loop | .switching loop _ _ | .restoring loop _ =>
      loop.places thread
  | _ => []

/-- The runs whose loops are open below a point that is on a thread, with the threads of those. -/
def Callers.places {form : Form} (thread : Nat) : Callers Memory last form → List (Nat × Nat)
  | .bottom => []
  | .push caller callers => caller.places thread ++ callers.places (caller.threadBelow thread)

def Focus.places (thread : Nat) : Focus Memory last → List (Nat × Nat)
  | .code _ callers | .complete _ _ callers | .unwind _ callers => callers.places thread
  | .iterate loop _ callers | .feed loop _ callers => loop.places thread ++ callers.places thread
  | .finish run _ callers => (run, thread) :: callers.places thread
  | .halted _ => []

theorem Loop.map_places {form : Form} (loop : Loop Memory form) (thread : Nat)
    (standing : List (Frame Memory) → Token → Standing Memory) :
    (loop.places thread).map Prod.fst = (loop.standing standing).map Prod.fst := by
  obtain ⟨purpose, pending, token⟩ := loop
  cases purpose <;> rfl

theorem Callers.map_places {form : Form} (callers : Callers Memory last form) (thread : Nat) :
    (callers.places thread).map Prod.fst = callers.loops.map Prod.fst := by
  induction callers generalizing thread with
  | bottom => rfl
  | push caller callers inductionHypothesis =>
      rw [places, loops, List.map_append, List.map_append, inductionHypothesis]
      congr 1
      cases caller <;> first | rfl | exact Loop.map_places _ _ _

theorem Focus.map_places (focus : Focus Memory last) (thread : Nat) :
    (focus.places thread).map Prod.fst = focus.loops.map Prod.fst := by
  cases focus with
  | code code callers | complete completer outcome callers | unwind payload callers =>
      exact callers.map_places thread
  | iterate loop plan callers | feed loop result callers =>
      rw [places, loops, List.map_append, List.map_append, callers.map_places]
      congr 1
      exact Loop.map_places _ _ _
  | finish run outcome callers => exact congrArg (run :: ·) (callers.map_places thread)
  | halted ending => rfl

theorem Focus.exists_loop {focus : Focus Memory last} {run thread place : Nat}
    (here : (run, place) ∈ focus.places thread) : ∃ standing, (run, standing) ∈ focus.loops := by
  have listed : run ∈ (focus.places thread).map Prod.fst := List.mem_map_of_mem here
  rw [focus.map_places] at listed
  obtain ⟨⟨_, standing⟩, member, rfl⟩ := List.mem_map.1 listed
  exact ⟨standing, member⟩

def Happening.isOwn : Happening Memory → Bool
  | .started _ _ _ _ | .attempted _ _ _ | .crossed _ _ | .returned _ => false
  | _ => true

theorem Caller.Waits.mem_places {form rest : Form} {caller : Caller Memory form rest} {run : Nat}
    {token : Token} (waits : caller.Waits run token) (thread : Nat) :
    (run, thread) ∈ caller.places thread := by
  obtain ⟨loop, here, ⟨pending, token⟩, rfl⟩ := waits
  cases caller <;> cases here <;> exact .head _

/-- What the loop of a run does happens where that loop is open. -/
theorem Focus.Shows.mem_places {focus : Focus Memory last} {host : Host Memory} {run : Nat}
    {happening : Happening Memory} (shows : focus.Shows host run happening)
    (own : happening.isOwn = true) (thread : Nat) : (run, thread) ∈ focus.places thread := by
  cases shows with
  | returns | detaches | attempts | crosses => cases own
  | answers waits | panics waits => exact List.mem_append_left _ (waits.mem_places thread)
  | _ => exact .head _

namespace Machine

def places (machine : Machine Memory last) : List (Nat × Nat) :=
  machine.focus.places machine.host.thread.id

def starts (runs : Nat) (after : Machine Memory last) : List (Nat × Nat) :=
  (startHappenings runs after).map fun (run, _) => (run, after.host.thread.id)

/-- Nothing is open but at given places, or because it has just been started. -/
def OpensOnly (runs : Nat) (places : List (Nat × Nat)) (after : Machine Memory last) : Prop :=
  ∀ place ∈ after.places, place ∈ places ∨ place ∈ starts runs after

namespace OpensOnly

variable {runs : Nat} {places : List (Nat × Nat)} {after : Machine Memory last}

theorem of_subset (fewer : after.places ⊆ places) : OpensOnly runs places after :=
  fun _ here => .inl (fewer here)

theorem of_eq (same : after.places = places) : OpensOnly runs places after :=
  .of_subset fun _ here => same ▸ here

end OpensOnly

section Start

variable {form rest : Form}

theorem opensOnly_start (plan : Plan Memory) (pending : Stack (Frame Memory)) (token : Token)
    (receiver : Receiver Memory) (callers : Callers Memory last .unit) (host : Host Memory) :
    OpensOnly host.runs.size (callers.places host.thread.id)
      (start plan pending token receiver callers host) := by
  intro place here
  rcases List.mem_cons.1 here with rfl | below
  · right
    rw [starts, startHappenings_start]
    exact .head _
  · exact .inl below

theorem opensOnly_perform (task : Task Memory) (callers : Callers Memory last .unit)
    (host : Host Memory) :
    OpensOnly host.runs.size (callers.places host.thread.id) (perform task callers host) := by
  cases task with
  | code body => exact .of_eq rfl
  | run source token completer => exact opensOnly_start source {} token _ callers host

theorem opensOnly_execute (context : Context Memory) (task : Task Memory)
    (callers : Callers Memory last .unit) (host : Host Memory) :
    OpensOnly host.runs.size (callers.places host.thread.id)
      (execute context task callers host) := by
  cases context with
  | immediate => exact opensOnly_perform task callers host
  | spawner spawner label =>
      simp only [execute, spawn]
      split
      · exact .of_eq rfl
      · exact opensOnly_perform task (.push (.spawning host.thread) callers) _
  | custom name schedule => exact .of_eq rfl

theorem opensOnly_call (registration : Registration Memory) (token : Token) (completer : Completer)
    (callers : Callers Memory last .unit) (host : Host Memory) :
    OpensOnly host.runs.size (callers.places host.thread.id)
      (registration.call token completer callers host) := by
  cases registration with
  | calling register => exact .of_eq rfl
  | hopping source context =>
      exact opensOnly_execute context _ callers (host.emit (.continuingOn context.name))
  | finishing head pending => exact opensOnly_start head pending token _ callers host

end Start

end Machine

namespace Loop

variable {form : Form} {loop : Loop Memory form} {callers : Callers Memory last form}
  {host : Host Memory}

theorem places_descend (frame : Frame Memory) (source : Plan Memory) :
    (loop.descend frame source callers host).places =
      loop.places host.thread.id ++ callers.places host.thread.id := by
  obtain ⟨purpose, pending, token⟩ := loop
  simp only [descend, push, Host.readSettings]
  cases purpose <;> split <;> (try split) <;> rfl

theorem places_changeToken (token : Token) (thread : Nat) :
    (loop.changeToken token host).1.places thread = loop.places thread := by
  obtain ⟨purpose, pending, old⟩ := loop
  cases purpose <;> rfl

theorem thread_changeToken (token : Token) :
    (loop.changeToken token host).2.thread = host.thread := by
  obtain ⟨purpose, pending, old⟩ := loop
  cases purpose <;> rfl

theorem places_goUnder (loop : Loop Memory form) (token : Token) (source : Plan Memory)
    (restore : Option (Result → Token → Token → Code Memory .token))
    (callers : Callers Memory last form) (host : Host Memory) :
    (loop.goUnder token source restore callers host).places =
      loop.places host.thread.id ++ callers.places host.thread.id := by
  unfold goUnder
  split
  · rfl
  · cases restore with
    | none => simp only [Machine.places, Focus.places, places_changeToken, thread_changeToken]; rfl
    | some restore => simp only [places_descend, places_changeToken, thread_changeToken]; rfl

theorem places_goBackTo (loop : Loop Memory form) (token : Token) (result : Result)
    (callers : Callers Memory last form) (host : Host Memory) :
    (loop.goBackTo token result callers host).places =
      loop.places host.thread.id ++ callers.places host.thread.id := by
  unfold goBackTo
  split
  · rfl
  · simp only [Machine.places, Focus.places, places_changeToken, thread_changeToken]; rfl

theorem opensOnly_iterate (loop : Loop Memory form) (plan : Plan Memory)
    (callers : Callers Memory last form) (host : Host Memory) :
    Machine.OpensOnly host.runs.size (loop.places host.thread.id ++ callers.places host.thread.id)
      (loop.iterate plan callers host) := by
  obtain ⟨purpose, pending, token⟩ := loop
  cases purpose with
  | run run =>
      simp only [iterate]
      split
      · exact .of_eq rfl
      · cases plan with
        | async registration =>
            intro place here
            simp only [advance, suspend] at here ⊢
            rcases Machine.opensOnly_call registration token _ _ _ place here with below | started
            · exact .inl (List.mem_append_right _ below)
            · right
              simpa only [Host.openGuard, Host.emit, Host.write, Host.setBoundary,
                Array.size_modify] using started
        | bind | map | handle | redeem => exact .of_eq (places_descend _ _)
        | _ => exact .of_eq rfl
  | step =>
      cases plan with
      | async | switch =>
          refine .of_eq ?_
          simp only [iterate, advance, suspend, switch, stop]
          split <;> rfl
      | bind | map | handle | redeem => exact .of_eq (places_descend _ _)
      | _ => exact .of_eq rfl

theorem places_feed (loop : Loop Memory form) (result : Result)
    (callers : Callers Memory last form) (host : Host Memory) :
    (loop.feed result callers host).places =
      loop.places host.thread.id ++ callers.places host.thread.id := by
  obtain ⟨purpose, pending, token⟩ := loop
  simp only [feed]
  split
  · cases purpose <;> rfl
  · rename_i frame below popped
    cases purpose <;> cases frame <;> cases result <;> rfl

end Loop

/-- How the loop of a run comes to be open on a thread after a move. -/
inductive Machine.Opens (machine : Machine Memory last) : Nat × Nat → Prop where
  | stays {place} (here : place ∈ machine.places) : Opens machine place
  | starts {place} (here : place ∈ machine.next.starts machine.host.runs.size) : Opens machine place
  | crosses {run epoch outcome}
      (happens : (run, .crossed epoch outcome) ∈ machine.focus.happenings machine.host) :
      Opens machine (run, machine.host.thread.id)
  | takesUp {opening boundary pending outcome} (opened : opening ∈ machine.situation.openings)
      (found : boundaryOf machine.host.runs opening.run = some boundary)
      (same : boundary.epoch = opening.epoch) (parked : boundary.phase = .parked pending outcome) :
      Opens machine (opening.run, opening.thread)

namespace Machine

variable {form : Form} {host : Host Memory}

theorem OpensOnly.opens {machine : Machine Memory last} {place : Nat × Nat}
    (only : OpensOnly machine.host.runs.size machine.places machine.next)
    (here : place ∈ machine.next.places) : machine.Opens place :=
  (only place here).elim .stays .starts

theorem places_goingOn (run : Nat) (outcome : Outcome Value) (pending : Stack (Frame Memory))
    (token : Token) (callers : Callers Memory last .unit) (thread : Nat) :
    (Focus.goingOn run outcome pending token callers).places thread =
      (run, thread) :: callers.places thread := by
  cases outcome <;> rfl

/-- A registration that returns opens a loop only where an outcome is parked for it. -/
theorem Detached.opens {run epoch : Nat} {token : Token} {callers : Callers Memory last .unit}
    {after : Machine Memory last} (detached : Detached host run epoch token callers after)
    {place : Nat × Nat} (here : place ∈ after.places) :
    place ∈ callers.places host.thread.id ∨ place = (run, host.thread.id) ∧
      ∃ boundary pending outcome, boundaryOf host.runs run = some boundary ∧
        boundary.epoch = epoch ∧ boundary.phase = .parked pending outcome := by
  cases detached with
  | unbounded | waits | crossed => exact .inl here
  | takesUp found current held =>
      rw [places, places_goingOn] at here
      rcases List.mem_cons.1 here with rfl | below
      · exact .inr ⟨rfl, _, _, _, found, current, held⟩
      · exact .inl below

theorem opens_returned {machine : Machine Memory last} (opening : Opening) {rest : List Opening}
    (callers : Callers Memory last .unit) (host : Host Memory)
    (openings : machine.situation.openings = opening :: rest)
    (places : machine.places = callers.places host.thread.id)
    (runs : host.runs = machine.host.runs) (thread : opening.thread = host.thread.id)
    {place : Nat × Nat}
    (here : place ∈ (detach opening.run opening.epoch opening.token callers host).places) :
    machine.Opens place := by
  rcases (detached host callers opening.run opening.epoch opening.token).opens here with
    below | ⟨rfl, boundary, pending, outcome, found, same, parked⟩
  · exact .stays (places ▸ below)
  · rw [← thread]
    exact .takesUp (openings ▸ .head rest) (runs ▸ found) same parked

theorem opens_answer {callers : Callers Memory last form} {answer : Answer Memory form}
    {place : Nat × Nat} (here : place ∈ (callers.answer answer host).places) :
    Opens ⟨.code (.done answer) callers, host⟩ place := by
  cases callers with
  | bottom => cases here
  | push caller callers =>
      cases caller with
      | code | waiting | stepping | joining | guarding | spawning | telling =>
          cases answer; exact .stays here
      | suspended loop | delayed loop | namingSuspended loop | namingDelayed loop
      | continuing loop | mapping loop => cases answer; exact .stays here
      | switching loop source restore =>
          cases answer with
          | token answer =>
              have now : place ∈ (loop.goUnder answer source restore callers _).places := here
              rw [Loop.places_goUnder] at now
              exact .stays now
      | restoring loop result =>
          cases answer with
          | token answer =>
              have now : place ∈ (loop.goBackTo answer result callers _).places := here
              rw [Loop.places_goBackTo] at now
              exact .stays now
      | registering run epoch token =>
          cases answer
          exact opens_returned ⟨run, epoch, token, host.thread.id⟩ callers host.closeGuard rfl rfl
            rfl rfl here
      | detaching run epoch token =>
          cases answer
          exact opens_returned ⟨run, epoch, token, host.thread.id⟩ callers host rfl rfl rfl rfl here

theorem places_unwind (callers : Callers Memory last form) (payload : Payload) :
    (callers.unwind payload host).places = callers.places host.thread.id := by
  cases callers with
  | bottom => rfl
  | push caller callers => cases caller <;> rfl

theorem Completed.opens {completer : Completer} {outcome : Outcome Value}
    {callers : Callers Memory last .unit} {after : Machine Memory last}
    (completed : Completed host completer outcome callers after) {place : Nat × Nat}
    (here : place ∈ after.places) : Opens ⟨.complete completer outcome callers, host⟩ place := by
  cases completed with
  | ignored | parked => exact .stays here
  | @resumes boundary pending found current held =>
      rw [places, places_goingOn] at here
      rcases List.mem_cons.1 here with rfl | below
      · have armed : boundary.isArmed = true := by
          rcases held with ⟨_, held, _⟩ | held <;> rw [Boundary.isArmed, held]
        apply Opens.crosses
        simp only [Focus.happenings, Host.accepts, found, Option.any_some, current, decide_true,
          armed, Bool.and_self, if_true]
        exact .tail _ (.head _)
      · exact .stays below

theorem Ended.places {run : Nat} {outcome : Outcome Value} {callers : Callers Memory last .unit}
    {after : Machine Memory last} (ended : Ended host run outcome callers after) :
    after.places = callers.places host.thread.id := by
  cases ended <;> rfl

theorem opens_evaluate (code : Code Memory form) (callers : Callers Memory last form)
    {place : Nat × Nat} (here : place ∈ (evaluate code callers host).places) :
    Opens ⟨.code code callers, host⟩ place := by
  cases code with
  | done answer => exact opens_answer here
  | ask request next =>
      refine .stays ?_
      simp only [evaluate, places, Host.thread_reply] at here
      exact here
  | panic payload silent =>
      refine .stays ?_
      simp only [evaluate, places, Host.report] at here
      split at here
      · exact here
      · split at here <;> exact here
  | onThread name body next =>
      refine .stays ?_
      simp only [evaluate, spawn] at here
      split at here <;> exact here
  | guard | step | complete => exact .stays here
  | run plan token receive next =>
      have only := opensOnly_start plan {} token (.code receive) (.push (.code next) callers) host
      exact OpensOnly.opens only here
  | runSync plan token next =>
      have only := opensOnly_start plan {} token .nobody
        (.push (.waiting host.runs.size next) callers) host
      exact OpensOnly.opens only here
  | execute context task next =>
      have only := opensOnly_execute context (.code task) (.push (.code next) callers) host
      exact OpensOnly.opens only here
  | runTask task next =>
      have only : OpensOnly host.runs.size (callers.places host.thread.id)
          (evaluate (.runTask task next) callers host) := by
        simp only [evaluate]
        split
        · rename_i after taken
          obtain rfl : (host.takeTask task).2 = after := by rw [taken]
          exact .of_eq rfl
        · rename_i given after taken
          obtain rfl : (host.takeTask task).2 = after := by rw [taken]
          exact opensOnly_perform given (.push (.code next) callers) (host.takeTask task).2
      exact OpensOnly.opens only here

/-- A loop is open after a move where it was, or because of what has happened in the move. -/
theorem opens_next (machine : Machine Memory last) {place : Nat × Nat}
    (here : place ∈ machine.next.places) : machine.Opens place := by
  obtain ⟨focus, host⟩ := machine
  cases focus with
  | code code callers => exact opens_evaluate code callers here
  | iterate loop plan callers =>
      exact OpensOnly.opens (loop.opensOnly_iterate plan callers host) here
  | feed loop result callers =>
      exact OpensOnly.opens (.of_eq (loop.places_feed result callers host)) here
  | complete completer outcome callers => exact (completed ..).opens here
  | finish run outcome callers =>
      have now : place ∈ (finish run outcome callers host).places := here
      rw [(ended ..).places] at now
      exact .stays (.tail _ now)
  | unwind payload callers =>
      have now : place ∈ (callers.unwind payload host).places := here
      rw [places_unwind] at now
      exact .stays now
  | halted ending => cases here

end Machine

end Trampoline
