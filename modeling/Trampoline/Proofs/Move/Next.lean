import Trampoline.Proofs.Move.Run

/-!
Every move of a machine is made of effects.

A machine whose panics are sheltered, whose open registrations belong to boundaries and whose ending
runs are untold goes from one situation to the next by effects, and exactly what `happenings`
reads off the move happens.  Nothing else about the moves is needed to follow the runs of a host.
-/

namespace Trampoline

variable {Memory : Type} {last form rest : Form} {host : Host Memory}

/-- What a move relies on: open registrations have a boundary, and a run that ends is untold. -/
structure Situation.Ready (situation : Situation Memory) : Prop where
  bounded : ∀ opening ∈ situation.openings,
    ∃ boundary, boundaryOf situation.runs opening.run = some boundary
  untold : ∀ run outcome, (run, Standing.ending outcome) ∈ situation.loops →
    ∃ entry, situation.runs[run]? = some entry ∧ entry.outcome = none

theorem Loop.follows_called (loop : Loop Memory form) {callers : Callers Memory last form}
    {thread : Nat} {standing next : List (Frame Memory) → Token → Standing Memory}
    {happenings : List (Happening Memory)} {after : Machine Memory last}
    (step : ∀ pending, Standing.Step (standing pending loop.token) happenings
      (next pending loop.token))
    (inner : happenings.all Happening.isInner = true)
    (same : after.situation = ⟨loop.standing next ++ callers.loops,
      callers.openings host.thread.id, host.due, [], host.runs, host.warnings⟩) :
    Machine.Follows thread ⟨loop.standing standing ++ callers.loops,
        callers.openings host.thread.id, host.due, [], host.runs, host.warnings⟩
      (loop.note fun _ => happenings) after := by
  obtain ⟨purpose, pending, token⟩ := loop
  cases purpose with
  | run run => exact follows_leads (.one (step pending.toList)) inner same
  | step => exact follows_step same

theorem Loop.follows_goUnder (loop : Loop Memory form) {callers : Callers Memory last form}
    {thread : Nat} (answer : Token) (source : Plan Memory)
    (restore : Option (Result → Token → Token → Code Memory .token)) (host : Host Memory) :
    Machine.Follows thread
      ⟨loop.standing (.calling (.switching source restore)) ++ callers.loops,
        callers.openings host.thread.id, host.due, [], host.runs, host.warnings⟩
      (loop.note fun _ => [.answered (.token answer)])
      (loop.goUnder answer source restore callers host) := by
  obtain ⟨purpose, pending, token⟩ := loop
  cases purpose with
  | run run => exact follows_goUnder_run answer source restore
  | step => exact follows_goUnder_step answer source restore

theorem Loop.follows_goBackTo (loop : Loop Memory form) {callers : Callers Memory last form}
    {thread : Nat} (answer : Token) (result : Result) (host : Host Memory) :
    Machine.Follows thread
      ⟨loop.standing (.calling (.restoring result)) ++ callers.loops,
        callers.openings host.thread.id, host.due, [], host.runs, host.warnings⟩
      (loop.note fun _ => [.answered (.token answer)])
      (loop.goBackTo answer result callers host) := by
  obtain ⟨purpose, pending, token⟩ := loop
  cases purpose with
  | run run => exact follows_goBackTo_run answer result
  | step => exact follows_goBackTo_step answer result

namespace Machine

theorem follows_answer (callers : Callers Memory last form) (answer : Answer Memory form)
    (ready : (callers.situation host host.due).Ready) :
    Follows host.thread.id (callers.situation host host.due)
      (Focus.happenings host (.code (.done answer) callers)) (callers.answer answer host) := by
  cases callers with
  | bottom => exact .of_same rfl
  | push caller callers =>
      cases caller with
      | code | waiting | stepping | joining | spawning | guarding | telling =>
          cases answer; exact .of_same rfl
      | suspended loop onPanic =>
          cases answer; exact loop.follows_called (fun _ => .suspendAnswer) rfl rfl
      | delayed loop onPanic =>
          cases answer; exact loop.follows_called (fun _ => .delayAnswer) rfl rfl
      | namingSuspended loop =>
          cases answer; exact loop.follows_called (fun _ => .nameSuspendedAnswer) rfl rfl
      | namingDelayed loop =>
          cases answer; exact loop.follows_called (fun _ => .nameDelayedAnswer) rfl rfl
      | continuing loop => cases answer; exact loop.follows_called (fun _ => .continueAnswer) rfl rfl
      | mapping loop => cases answer; exact loop.follows_called (fun _ => .mapAnswer) rfl rfl
      | switching loop source restore =>
          cases answer with
          | token answer => exact loop.follows_goUnder answer source restore host.closeGuard
      | restoring loop result =>
          cases answer with
          | token answer => exact loop.follows_goBackTo answer result host.closeGuard
      | registering run epoch token =>
          cases answer
          have bounded := ready.bounded _ (List.mem_cons_self ..)
          exact follows_detach run epoch token callers host.closeGuard bounded
      | detaching run epoch token =>
          cases answer
          have bounded := ready.bounded _ (List.mem_cons_self ..)
          exact follows_detach run epoch token callers host bounded

theorem follows_unwind {spared : Completer → Bool} (callers : Callers Memory last form)
    (payload : Payload) (guarded : callers.mayPanic spared = true) :
    Follows host.thread.id (callers.situation host host.due)
      (Focus.happenings host (.unwind payload callers)) (callers.unwind payload host) := by
  cases callers with
  | bottom => exact .of_same rfl
  | push caller callers =>
      cases caller with
      | code | waiting | stepping | joining | spawning | guarding | telling | registering =>
          exact .of_same rfl
      | suspended loop onPanic => exact loop.follows_called (fun _ => .suspendPanic) rfl rfl
      | delayed loop onPanic => exact loop.follows_called (fun _ => .delayPanic) rfl rfl
      | namingDelayed loop => exact loop.follows_called (fun _ => .nameDelayedPanic) rfl rfl
      | namingSuspended loop | continuing loop | mapping loop =>
          exact loop.follows_called (fun _ => .panic rfl) rfl rfl
      | switching loop source restore =>
          have raises : (Site.switching source restore).raises = true := rfl
          exact loop.follows_called (fun _ => .panic raises) rfl rfl
      | restoring loop result => exact loop.follows_called (fun _ => .panic rfl) rfl rfl
      | detaching => cases guarded

theorem filterMap_modify_none {Element Image : Type} (image : Element → Option Image)
    (places : List (Option Element)) (place : Nat) :
    ∃ before behind,
      (places.modify place fun _ => none).filterMap (·.bind image) = before ++ behind ∧
        places.filterMap (·.bind image) =
          before ++ ((places[place]?.join).bind image).toList ++ behind := by
  induction places generalizing place with
  | nil => exact ⟨[], [], by simp, by simp⟩
  | cons held rest inductionHypothesis =>
      have first : (held :: rest).filterMap (·.bind image) =
          (held.bind image).toList ++ rest.filterMap (·.bind image) := by
        cases shown : held.bind image <;> simp [shown]
      cases place with
      | zero => exact ⟨[], rest.filterMap (·.bind image), by simp, by simpa using first⟩
      | succ place =>
          obtain ⟨before, behind, emptied, whole⟩ := inductionHypothesis place
          refine ⟨(held.bind image).toList ++ before, behind, ?_, ?_⟩
          · cases shown : held.bind image <;> simp [shown, emptied]
          · rw [first, whole]
            simp

theorem due_takeTask (host : Host Memory) (task : Nat) :
    ∃ before behind, (host.takeTask task).2.due = before ++ behind ∧
      host.due = before ++ ((host.takeTask task).1.bind Task.due?).toList ++ behind := by
  simp only [Host.takeTask, Host.due, Array.toList_modify, ← Array.getElem?_toList]
  exact filterMap_modify_none Task.due? host.tasks.toList task

theorem follows_runTask (task : Nat) (next : Unit → Code Memory form)
    (callers : Callers Memory last form) :
    Follows host.thread.id (callers.situation host host.due) []
      (evaluate (.runTask task next) callers host) := by
  obtain ⟨before, behind, left, due⟩ := due_takeTask host task
  simp only [evaluate]
  split
  · rename_i after taken
    rw [taken] at left due
    simp only [Option.bind_none, Option.toList_none, List.append_nil] at due
    rw [due, ← left]
    obtain rfl : (host.takeTask task).2 = after := by rw [taken]
    exact .of_same rfl
  · rename_i given after taken
    rw [taken] at left due
    simp only [Option.bind_some] at due
    rw [due]
    obtain rfl : (host.takeTask task).2 = after := by rw [taken]
    have performed : Follows host.thread.id _ []
        (perform given (.push (.code next) callers) (host.takeTask task).2) :=
      follows_perform given left
    exact performed

/-- Code that runs on top of loops tells nothing of them, but where it answers. -/
theorem follows_evaluate (code : Code Memory form) (callers : Callers Memory last form)
    (ready : (callers.situation host host.due).Ready) :
    Follows host.thread.id (callers.situation host host.due)
      (Focus.happenings host (.code code callers)) (evaluate code callers host) := by
  cases code with
  | done answer => exact follows_answer callers answer ready
  | ask request next =>
      apply Follows.of_same
      simp only [evaluate, Callers.situation, situation, Host.due, Host.runs_reply,
        Host.tasks_reply, Host.thread_reply, Host.warnings_reply]
      rfl
  | panic payload silent =>
      apply Follows.of_same
      simp only [evaluate, Host.report]
      split
      · rfl
      · split <;> rfl
  | guard body next => exact .of_same rfl
  | onThread name body next =>
      apply Follows.of_same
      simp only [evaluate, spawn]
      split <;> rfl
  | run plan token receive next =>
      exact follows_start plan {} token (.code receive) (.push (.code next) callers) host rfl
  | runSync plan token next =>
      exact follows_start plan {} token .nobody (.push (.waiting host.runs.size next) callers) host
        rfl
  | step plan next => exact .of_same rfl
  | complete completer result next => exact .of_same rfl
  | execute context task next =>
      have executed : Follows host.thread.id _ [] _ :=
        follows_execute context (.code task) (.push (.code next) callers) host
      rwa [Task.due?, Option.toList_none, List.append_nil] at executed
  | runTask task next => exact follows_runTask task next callers

/-- Every move is made of effects. -/
theorem effects_next {spared : Completer → Bool} (machine : Machine Memory last)
    (sheltered : machine.focus.Sheltered spared) (ready : machine.situation.Ready) :
    Effects machine.host.thread.id machine.situation machine.happenings machine.next.situation := by
  obtain ⟨focus, host⟩ := machine
  cases focus with
  | code code callers => exact follows_evaluate code callers ready
  | iterate loop plan callers =>
      obtain ⟨purpose, pending, token⟩ := loop
      cases purpose with
      | run run => exact Loop.follows_iterate_run plan
      | step => exact Loop.follows_iterate_step plan
  | feed loop result callers =>
      obtain ⟨purpose, pending, token⟩ := loop
      cases purpose with
      | run run => exact Loop.follows_feed_run result
      | step => exact Loop.follows_feed_step result
  | finish run outcome callers =>
      exact follows_finish run outcome (ready.untold run outcome (List.mem_cons_self ..))
  | complete completer outcome callers => exact follows_complete completer outcome
  | unwind payload callers => exact follows_unwind callers payload sheltered.2
  | halted ending =>
      have same : Follows host.thread.id _ [] (⟨.halted ending, host⟩ : Machine Memory last) :=
        .of_same rfl
      exact same

end Machine

end Trampoline
