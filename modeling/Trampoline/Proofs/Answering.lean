import Trampoline.Proofs.Dialogue
import Trampoline.Proofs.Enclosure
import Trampoline.Proofs.Exclusion
import Trampoline.Proofs.Timing

/-!
Code ends as its leaves say.

Code is a tree with answers and panics at its leaves.  However much is run above it on the way, a
machine goes on above the rest of the code until that comes to a leaf, and whoever has called the
code is given the answer there or meets the panic.  Besides, code may panic where it gives a thread a
name that no thread can have, and where it hands a task to a context or runs one; starting, stepping
and resuming runs does not panic.  So where a run has called code, what happens to it next is that it
is given an answer that the code ends with, or that a panic is caught that the code ends with.
-/

namespace Trampoline

variable {Memory : Type} {last middle form rest : Form}

/-- Code may end with an answer or with a panic. -/
inductive Code.Ends {form : Form} :
    Code Memory form → Except Payload (Answer Memory form) → Prop where
  | done {answer} : Ends (.done answer) (.ok answer)
  | panic {payload silent} : Ends (.panic payload silent) (.error payload)
  | ask {request next reply ending} (later : Ends (next reply) ending) :
      Ends (.ask request next) ending
  | guard {body next caught ending} (later : Ends (next caught) ending) :
      Ends (.guard body next) ending
  | onThread {name body next value ending} (later : Ends (next value) ending) :
      Ends (.onThread name body next) ending
  | misnamed {name body next fault} (faulty : name.bind Thread.nameFault? = some fault) :
      Ends (.onThread name body next) (.error (.message fault))
  | run {plan token receive next ending} (later : Ends (next ()) ending) :
      Ends (.run plan token receive next) ending
  | runSync {plan token next outcome ending} (later : Ends (next outcome) ending) :
      Ends (.runSync plan token next) ending
  | step {plan next kept ending} (later : Ends (next kept) ending) : Ends (.step plan next) ending
  | complete {completer result next ending} (later : Ends (next ()) ending) :
      Ends (.complete completer result next) ending
  | execute {context task next ending} (later : Ends (next ()) ending) :
      Ends (.execute context task next) ending
  /-- What becomes of a task is up to the context. -/
  | executePanic {context task next payload} : Ends (.execute context task next) (.error payload)
  | runTask {task next ending} (later : Ends (next ()) ending) : Ends (.runTask task next) ending
  | runTaskPanic {task next payload} : Ends (.runTask task next) (.error payload)

section AndThen

variable {other : Form} {continuation : Answer Memory form → Code Memory other}

theorem Code.ends_andThen (code : Code Memory form) {ending : Except Payload (Answer Memory other)}
    (ends : (code.andThen continuation).Ends ending) :
    (∃ first, code.Ends (.ok first) ∧ (continuation first).Ends ending) ∨
      ∃ payload, ending = .error payload ∧ code.Ends (.error payload) := by
  induction code using Code.induction with
  | done first => exact .inl ⟨first, .done, ends⟩
  | panic =>
      cases ends
      exact .inr ⟨_, rfl, .panic⟩
  | onThread _ _ _ rest =>
      cases ends with
      | misnamed faulty => exact .inr ⟨_, rfl, .misnamed faulty⟩
      | onThread later =>
          rcases rest _ later with ⟨first, here, goesOn⟩ | ⟨payload, fails, here⟩
          · exact .inl ⟨first, .onThread here, goesOn⟩
          · exact .inr ⟨payload, fails, .onThread here⟩
  | execute _ _ _ rest =>
      cases ends with
      | executePanic => exact .inr ⟨_, rfl, .executePanic⟩
      | execute later =>
          rcases rest _ later with ⟨first, here, goesOn⟩ | ⟨payload, fails, here⟩
          · exact .inl ⟨first, .execute here, goesOn⟩
          · exact .inr ⟨payload, fails, .execute here⟩
  | runTask _ _ rest =>
      cases ends with
      | runTaskPanic => exact .inr ⟨_, rfl, .runTaskPanic⟩
      | runTask later =>
          rcases rest _ later with ⟨first, here, goesOn⟩ | ⟨payload, fails, here⟩
          · exact .inl ⟨first, .runTask here, goesOn⟩
          · exact .inr ⟨payload, fails, .runTask here⟩
  | ask _ _ rest | guard _ _ rest | run _ _ _ _ rest | runSync _ _ _ rest | step _ _ rest
  | complete _ _ _ rest =>
      rw [andThen] at ends
      cases ends
      rename_i later
      rcases rest _ later with ⟨first, here, goesOn⟩ | ⟨payload, fails, here⟩
      · exact .inl ⟨first, by constructor; exact here, goesOn⟩
      · exact .inr ⟨payload, fails, by constructor; exact here⟩

end AndThen

/-! ### Machines that go on to an end -/

/-- No panic unwinds out of what runs: a run, its resumption, or stepping. -/
inductive Focus.IsCalm : {form : Form} → Focus Memory form → Prop where
  | tight {focus : Focus Memory .unit} (tight : focus.IsTight) : IsCalm focus
  | stepping {focus : Focus Memory .plan} {standing : Standing Memory}
      (stands : focus.Stands .uncancelable standing) : IsCalm focus

theorem Focus.IsCalm.next {focus : Focus Memory form} {host : Host Memory} (calm : focus.IsCalm)
    (going : focus.isGoing = true) (remains : (Machine.next ⟨focus, host⟩).focus.isGoing = true) :
    (Machine.next ⟨focus, host⟩).focus.IsCalm := by
  cases calm with
  | tight tight => exact .tight (tight.next going remains)
  | stepping stands =>
      obtain ⟨next, _, stands'⟩ := stands.goes host
      exact .stepping stands'

theorem Focus.IsCalm.isLeaving_eq {focus : Focus Memory form} (calm : focus.IsCalm) :
    focus.isLeaving = false := by
  cases calm with
  | tight tight => exact tight.isLeaving_eq
  | stepping stands => exact stands.isLeaving_eq

theorem Focus.isCalm_run (loop : Loop Memory .unit) (plan : Plan Memory) :
    (Focus.iterate loop plan .bottom).IsCalm :=
  .tight Callers.sheltered_exposed

/-- Whether a panic becomes a reply to whoever goes on. -/
def Caller.catches : Caller Memory form rest → Bool
  | .guarding _ | .joining _ _ => true
  | _ => false

section Yields

variable (goal : Except Payload (Answer Memory last) → Prop)

inductive Caller.Awaits : {form : Form} → Caller Memory form last → Prop where
  | code {next} (ends : ∀ reply ending, (next reply).Ends ending → goal ending) :
      Awaits (.code next)
  | waiting {run next} (ends : ∀ reply ending, (next reply).Ends ending → goal ending) :
      Awaits (.waiting run next)
  | stepping {next} (ends : ∀ reply ending, (next reply).Ends ending → goal ending) :
      Awaits (.stepping next)
  | joining {outer next} (ends : ∀ reply ending, (next reply).Ends ending → goal ending) :
      Awaits (.joining outer next)
  | guarding {next} (ends : ∀ reply ending, (next reply).Ends ending → goal ending) :
      Awaits (.guarding next)

/-- A machine ends as it should: its outermost code does, and so does any panic that unwinds out of
what runs above that. -/
inductive Focus.Yields : Focus Memory last → Prop where
  | code {code : Code Memory last} (ends : ∀ ending, code.Ends ending → goal ending) :
      Yields (.code code .bottom)
  | waiting {form : Form} {caller : Caller Memory form last} {inner : Focus Memory form}
      (going : inner.isGoing = true) (awaits : caller.Awaits goal)
      (contained : inner.IsCalm ∨ caller.catches = true ∨ ∀ payload, goal (.error payload)) :
      Yields (inner.above (.push caller .bottom))
  | unwinding {payload} (fails : goal (.error payload)) :
      Yields (.unwind payload (.bottom : Callers Memory last last))

variable {goal} {host : Host Memory}

theorem Caller.Awaits.answer {caller : Caller Memory form last} (awaits : caller.Awaits goal)
    (answer : Answer Memory form) : (caller.answer answer .bottom host).focus.Yields goal := by
  cases awaits with
  | code ends | waiting ends | stepping ends | joining ends | guarding ends =>
      cases answer
      exact .code (ends _)

theorem Caller.Awaits.unwind {caller : Caller Memory form last} (awaits : caller.Awaits goal)
    {payload : Payload} (contained : caller.catches = true ∨ goal (.error payload)) :
    (caller.unwind payload .bottom host).focus.Yields goal := by
  cases awaits with
  | guarding ends | joining ends => exact .code (ends _)
  | code | waiting | stepping => exact .unwinding (contained.resolve_left Bool.noConfusion)

theorem Machine.yields_evaluate {code : Code Memory last}
    (ends : ∀ ending, code.Ends ending → goal ending) (open' : ∀ answer, code ≠ .done answer) :
    (evaluate code .bottom host).focus.Yields goal := by
  cases code with
  | done answer => exact absurd rfl (open' answer)
  | ask request next => exact .code fun ending later => ends ending (.ask later)
  | panic payload silent => exact .unwinding (ends _ .panic)
  | guard body next =>
      have inner : (Focus.code (body ()) .bottom).isGoing = true := rfl
      exact .waiting inner (.guarding fun _ ending later => ends ending (.guard later))
        (.inr (.inl rfl))
  | onThread name body next =>
      have inner : (Focus.code (body ()) .bottom).isGoing = true := rfl
      simp only [evaluate, spawn]
      split
      · rename_i fault faulty
        refine .code fun ending fails => ?_
        cases fails
        exact ends _ (.misnamed faulty)
      · exact .waiting inner (.joining fun _ ending later => ends ending (.onThread later))
          (.inr (.inl rfl))
  | run plan token receive next =>
      exact .waiting rfl (.code fun _ ending later => ends ending (.run later))
        (.inl (Focus.isCalm_run { purpose := .run host.runs.size, token } plan))
  | runSync plan token next =>
      exact .waiting rfl (.waiting fun _ ending later => ends ending (.runSync later))
        (.inl (Focus.isCalm_run { purpose := .run host.runs.size, token } plan))
  | step plan next =>
      have begins : plan.stepping.IsCalm := .stepping (.iterating (by simp [Stack.toList]))
      exact .waiting rfl (.stepping fun _ ending later => ends ending (.step later)) (.inl begins)
  | complete completer result next =>
      have tight : (Focus.complete completer (.ofResult result) .bottom :
          Focus Memory .unit).IsTight := ⟨Callers.sheltered_exposed, fun _ => rfl⟩
      exact .waiting rfl (.code fun _ ending later => ends ending (.complete later))
        (.inl (.tight tight))
  | execute context task next =>
      have awaits : (Caller.code next).Awaits goal :=
        .code fun _ ending later => ends ending (.execute later)
      have inner : (execute context (.code task) .bottom host).focus.isGoing = true :=
        isGoing_execute host context _ .bottom
      have same := above_execute (.push (.code next) .bottom) host context (.code task) .bottom
      have focus := congrArg Machine.focus (Focus.above_of_going inner (.push (.code next) .bottom))
      rw [same] at focus
      show (execute context (.code task) (.push (.code next) .bottom) host).focus.Yields goal
      rw [show (Callers.push (.code next) .bottom : Callers Memory last .unit) =
        Callers.above .bottom (.push (.code next) .bottom) from rfl, focus]
      exact .waiting inner awaits (.inr (.inr fun _ => ends _ .executePanic))
  | runTask task next =>
      have awaits : (Caller.code next).Awaits goal :=
        .code fun _ ending later => ends ending (.runTask later)
      have contained (payload : Payload) : goal (.error payload) := ends _ .runTaskPanic
      simp only [evaluate]
      split
      · exact .code fun ending later => ends ending (.runTask later)
      · rename_i task host _
        cases task with
        | code body =>
            have inner : (Focus.code (body ()) .bottom).isGoing = true := rfl
            exact .waiting inner awaits (.inr (.inr contained))
        | run source token completer =>
            exact .waiting rfl awaits
              (.inl (Focus.isCalm_run { purpose := .run host.runs.size, token } source))

/-- As long as a machine has not ended, it goes on to end as it should. -/
theorem Focus.Yields.next {focus : Focus Memory last} (yields : focus.Yields goal)
    (remains : (Machine.next ⟨focus, host⟩).focus.isGoing = true) :
    (Machine.next ⟨focus, host⟩).focus.Yields goal := by
  cases yields with
  | @code code ends =>
      refine Machine.yields_evaluate ends ?_
      rintro answer rfl
      cases remains
  | @waiting form caller inner going awaits contained =>
      by_cases answers : ∃ answer, inner = .code (.done answer) .bottom
      · obtain ⟨answer, rfl⟩ := answers
        exact awaits.answer answer
      · by_cases panics : ∃ payload, inner = .unwind payload .bottom
        · obtain ⟨payload, rfl⟩ := panics
          rcases contained with calm | stops
          · cases calm.isLeaving_eq
          · exact awaits.unwind (stops.imp_right fun fails => fails payload)
        · rw [not_exists] at answers panics
          have later := Machine.isGoing_next host going answers panics
          rw [Machine.above_next _ host going, above_of_going later]
          exact .waiting later awaits (contained.imp_left fun calm => calm.next going later)
  | unwinding => cases remains

theorem Focus.Yields.of_done {answer : Answer Memory last}
    (yields : (Focus.code (.done answer) (.bottom : Callers Memory last last)).Yields goal) :
    goal (.ok answer) := by
  generalize ended : Focus.code (.done answer) (.bottom : Callers Memory last last) = focus at yields
  cases yields with
  | code ends =>
      cases ended
      exact ends _ .done
  | @waiting _ caller inner going =>
      cases inner with
      | code code callers => cases callers <;> cases ended
      | halted => cases going
      | _ => cases ended
  | unwinding => cases ended

theorem Focus.Yields.of_unwind {payload : Payload}
    (yields : (Focus.unwind payload (.bottom : Callers Memory last last)).Yields goal) :
    goal (.error payload) := by
  generalize ended : Focus.unwind payload (.bottom : Callers Memory last last) = focus at yields
  cases yields with
  | code => cases ended
  | @waiting _ caller inner going =>
      cases inner with
      | unwind payload callers => cases callers <;> cases ended
      | halted => cases going
      | _ => cases ended
  | unwinding fails =>
      cases ended
      exact fails

end Yields

/-! ### Code that a run has called -/

theorem Callers.loops_above (callers : Callers Memory middle form)
    (below : Callers Memory last middle) :
    (callers.above below).loops = callers.loops ++ below.loops := by
  induction callers with
  | bottom => rfl
  | push caller callers inductionHypothesis =>
      simp only [above, loops, inductionHypothesis, List.append_assoc]

theorem Focus.loops_above {inner : Focus Memory middle} (going : inner.isGoing = true)
    (below : Callers Memory last middle) :
    (inner.above below).loops = inner.loops ++ below.loops := by
  cases inner with
  | halted => cases going
  | _ => simp [above, loops, Callers.loops_above]

def Focus.Serves (focus : Focus Memory last) (run : Nat) (call : Call Memory) : Prop :=
  ∃ (rest : Form) (caller : Caller Memory call.form rest) (callers : Callers Memory last rest)
    (inner : Focus Memory call.form), focus = inner.above (.push caller callers) ∧
      inner.isGoing = true ∧ inner.Yields call.code.Ends ∧
        ∃ standing, (run, standing) ∈ caller.loops

/-- How a call may be replied: with an answer that its code ends with, or with a panic that is caught
of it. -/
inductive Call.May (call : Call Memory) : Reply Memory → Prop where
  | answered {answer : Answer Memory call.form} (ends : call.code.Ends (.ok answer)) :
      May call (.answered answer)
  | panicked {panic payload} (ends : call.code.Ends (.error payload))
      (message : panic.message = payload.caughtMessage) : May call (.panicked panic)

theorem Call.May.eq_answered {call : Call Memory} {reply : Reply Memory}
    {answer : Answer Memory call.form} (may : call.May reply) (ready : call.code = .done answer) :
    reply = .answered answer := by
  cases may with
  | answered ends =>
      rw [ready] at ends
      cases ends
      rfl
  | panicked ends =>
      rw [ready] at ends
      cases ends

def Call.Replied (call : Call Memory) (happening : Happening Memory) : Prop :=
  ∃ reply, happening.reply? = some reply ∧ call.May reply

theorem Call.Replied.eq_answered {call : Call Memory} {happening : Happening Memory}
    {answer : Answer Memory call.form} (replied : call.Replied happening)
    (ready : call.code = .done answer) : happening = .answered answer := by
  obtain ⟨reply, shown, may⟩ := replied
  rw [may.eq_answered ready] at shown
  cases happening <;> cases shown
  rfl

section Serves

variable {run : Nat} {call : Call Memory} {host : Host Memory} {focus : Focus Memory last}

def Focus.Begins (focus : Focus Memory last) (run : Nat) (call : Call Memory) : Prop :=
  ∃ (rest : Form) (caller : Caller Memory call.form rest) (callers : Callers Memory last rest),
    focus = .code call.code (.push caller callers) ∧ ∃ standing, (run, standing) ∈ caller.loops

theorem Caller.Waits.exists_loops {caller : Caller Memory form rest} {token : Token}
    (waits : caller.Waits run token) : ∃ standing, (run, standing) ∈ caller.loops := by
  obtain ⟨loop, here, ⟨pending, token⟩, rfl⟩ := waits
  cases caller <;> cases here <;> exact ⟨_, .head _⟩

theorem Focus.Serves.exists_loop (serves : focus.Serves run call) :
    ∃ standing, (run, standing) ∈ focus.loops := by
  obtain ⟨rest, caller, callers, inner, rfl, going, _, standing, loops⟩ := serves
  refine ⟨standing, ?_⟩
  rw [Focus.loops_above going]
  exact List.mem_append_right _ (List.mem_append_left _ loops)

theorem Focus.Begins.serves (begins : focus.Begins run call) : focus.Serves run call := by
  obtain ⟨rest, caller, callers, rfl, loops⟩ := begins
  exact ⟨rest, caller, callers, .code call.code .bottom, rfl, rfl, .code fun _ ends => ends, loops⟩

theorem Focus.Begins.startHappenings_eq_nil {after : Machine Memory last} {runs : Nat}
    (begins : after.focus.Begins run call) : Machine.startHappenings runs after = [] := by
  obtain ⟨focus, host⟩ := after
  obtain ⟨rest, caller, callers, rfl, loops⟩ := begins
  unfold Machine.startHappenings
  split
  · rename_i same
    cases same
  · rfl

/-- After a move in which code is called, that code is about to be run. -/
theorem Machine.begins_next {machine : Machine Memory last} {token : Token}
    (called : (run, .called call token) ∈ machine.happenings) :
    machine.next.focus.Begins run call := by
  obtain ⟨rest, caller, callers, goes, waits⟩ := next_of_called (shows_of_old called (by simp))
  exact ⟨rest, caller, callers, goes, waits.exists_loops⟩

end Serves

section Inside

variable {run : Nat} {host : Host Memory} {happening : Happening Memory}

theorem Loop.note_of_standing {loop : Loop Memory form} {standing : Standing Memory}
    {place : List (Frame Memory) → Token → Standing Memory}
    (stands : (run, standing) ∈ loop.standing place)
    (happenings : Nat → List (Happening Memory)) :
    loop.note happenings = (happenings run).map fun happening => (run, happening) := by
  obtain ⟨purpose, pending, token⟩ := loop
  cases purpose with
  | step => cases stands
  | run other =>
      cases List.mem_singleton.1 stands
      rfl

theorem Caller.answerHappenings_of_loops {caller : Caller Memory form rest}
    {standing : Standing Memory} (loops : (run, standing) ∈ caller.loops)
    (answer : Answer Memory form) : caller.answerHappenings answer = [(run, .answered answer)] := by
  cases caller <;> first | exact Loop.note_of_standing loops _ | cases loops

theorem Caller.panicHappenings_of_loops {caller : Caller Memory form rest}
    {standing : Standing Memory} (loops : (run, standing) ∈ caller.loops) (panic : Panic) :
    ∃ later, caller.panicHappenings panic = (run, .panicked panic) :: later := by
  cases caller <;> first | exact ⟨_, Loop.note_of_standing loops _⟩ | cases loops

/-- What happens in a move above callers happens to a run whose loop is open above them, or whose
boundary is being completed, as long as they are not given an answer or a panic. -/
theorem Focus.stands_of_happening {inner : Focus Memory middle} {below : Callers Memory last middle}
    (going : inner.isGoing = true) (answers : ∀ answer, inner ≠ .code (.done answer) .bottom)
    (panics : ∀ payload, inner ≠ .unwind payload .bottom)
    (here : (run, happening) ∈ (inner.above below).happenings host)
    (step : happening.isStep = true) :
    (∃ standing, (run, standing) ∈ inner.loops) ∨ ∃ epoch, host.accepts ⟨run, epoch⟩ = true := by
  have shows := shows_of_mem here
  cases inner with
  | iterate | feed | finish => cases shows <;> exact .inl ⟨_, .head _⟩
  | code code callers =>
      cases callers with
      | bottom =>
          cases code with
          | done answer => exact absurd rfl (answers answer)
          | _ => cases here
      | push caller callers =>
          cases shows with
          | returns | detaches => cases step
          | answers waits =>
              obtain ⟨standing, member⟩ := waits.exists_loops
              exact .inl ⟨standing, List.mem_append_left _ member⟩
  | unwind payload callers =>
      cases callers with
      | bottom => exact absurd rfl (panics payload)
      | push caller callers =>
          cases shows with
          | panics waits =>
              obtain ⟨standing, member⟩ := waits.exists_loops
              exact .inl ⟨standing, List.mem_append_left _ member⟩
          | namesSuspended | namesDelayed => exact .inl ⟨_, .head _⟩
  | complete completer outcome callers =>
      cases shows with
      | attempts => cases step
      | crosses accepts => exact .inr ⟨_, accepts⟩
  | halted ending => cases going

end Inside

namespace Chronicle

/-- A run that has called code is given an answer that the code ends with, or a panic; until then a
worker is about to go on with the code. -/
structure Truthful (chronicle : Chronicle Memory) : Prop where
  waits : ∀ run before call token,
    course run chronicle.history = before ++ [.called call token] →
      ∃ worker ∈ chronicle.pool.workers, worker.focus.Serves run call
  replies : ∀ run before call token happening after,
    course run chronicle.history = before ++ .called call token :: happening :: after →
      call.Replied happening

variable {chronicle : Chronicle Memory} {run : Nat}

/-- Nothing happens to a run while code that it has called goes on. -/
theorem course_records_of_inside (kept : chronicle.Kept fun _ _ => True)
    {before rest : List (Worker Memory)} {thread : Thread}
    {inner : Focus Memory middle} {below : Callers Memory last middle}
    (workers : chronicle.pool.workers = before ++ ⟨inner.above below, thread⟩ :: rest)
    {standing : Standing Memory} (there : (run, standing) ∈ below.loops)
    (going : inner.isGoing = true) (answers : ∀ answer, inner ≠ .code (.done answer) .bottom)
    (panics : ∀ payload, inner ≠ .unwind payload .bottom) :
    course run (Worker.machine ⟨inner.above below, thread⟩ chronicle.pool.host).records = [] := by
  have loops : chronicle.pool.situation.loops =
      before.flatMap (fun worker => worker.focus.loops) ++ ((inner.loops ++ below.loops) ++
        rest.flatMap fun worker => worker.focus.loops) := by
    rw [← Focus.loops_above going]
    show chronicle.pool.workers.flatMap _ = _
    rw [workers, List.flatMap_append, List.flatMap_cons]
  have listed : (run, standing) ∈ chronicle.pool.situation.loops := by
    rw [loops]
    exact List.mem_append_right _ (List.mem_append_left _ (List.mem_append_right _ there))
  have tracked := kept.kept.tracked
  have older : run < chronicle.pool.host.runs.size := tracked.lt_size_of_loop listed
  rw [Machine.course_records (course_startHappenings older), List.eq_nil_iff_forall_not_mem]
  intro happening member
  have step : happening.isStep = true := by
    obtain ⟨record, _, shown⟩ := List.mem_filterMap.1 member
    split at shown
    · rename_i both
      cases shown
      exact both.2
    · cases shown
  rcases Focus.stands_of_happening going answers panics (mem_course_recorded member) step with
    ⟨other, elsewhere⟩ | ⟨epoch, accepted⟩
  · obtain ⟨front, back, split⟩ := List.append_of_mem elsewhere
    rw [split] at loops
    simp only [List.append_assoc, List.cons_append] at loops
    rw [← List.append_assoc] at loops
    exact loop_unique kept loops
      (List.mem_append_right _ (List.mem_append_left _ there))
  · exact Bool.false_ne_true ((tracked.refuses listed rfl epoch).symm.trans accepted)

/-- A move of the worker that serves a call gives the call its reply, or goes on serving it. -/
theorem serves_next (kept : chronicle.Kept fun _ _ => True) {before rest : List (Worker Memory)}
    {worker : Worker Memory} (workers : chronicle.pool.workers = before ++ worker :: rest)
    {call : Call Memory} (older : run < chronicle.pool.host.runs.size)
    (serves : worker.focus.Serves run call) :
    let machine := worker.machine chronicle.pool.host
    (∃ happening later, course run machine.records = happening :: later ∧
        call.Replied happening) ∨
      course run machine.records = [] ∧ machine.next.focus.Serves run call := by
  intro machine
  obtain ⟨focus, thread⟩ := worker
  have serves : focus.Serves run call := serves
  obtain ⟨form, caller, callers, inner, rfl, going, yields, standing, loops⟩ := serves
  have begins {happening : Happening Memory} (step : happening.isStep = true)
      {later : List (Nat × Happening Memory)}
      (shown : Focus.happenings { chronicle.pool.host with thread }
        (inner.above (.push caller callers)) = (run, happening) :: later) :
      course run machine.records = happening :: course run (recorded thread.id later) := by
    have quiet : course run machine.records = course run (recorded thread.id (Focus.happenings
        { chronicle.pool.host with thread } (inner.above (.push caller callers)))) :=
      Machine.course_records (course_startHappenings older)
    rw [quiet, shown]
    simp [course, recorded, step]
  by_cases answers : ∃ answer, inner = .code (.done answer) .bottom
  · obtain ⟨answer, rfl⟩ := answers
    exact .inl ⟨_, _, begins rfl (Caller.answerHappenings_of_loops loops answer),
      ⟨_, rfl, .answered yields.of_done⟩⟩
  · by_cases panics : ∃ payload, inner = .unwind payload .bottom
    · obtain ⟨payload, rfl⟩ := panics
      obtain ⟨_, shown⟩ := Caller.panicHappenings_of_loops loops
        (Host.capture { chronicle.pool.host with thread } payload).1
      exact .inl ⟨_, _, begins rfl shown, ⟨_, rfl, .panicked yields.of_unwind rfl⟩⟩
    · rw [not_exists] at answers panics
      have below : (run, standing) ∈ (Callers.push caller callers).loops :=
        List.mem_append_left _ loops
      have remains := Machine.isGoing_next { chronicle.pool.host with thread } going answers panics
      have next : machine.next = (Machine.next ⟨inner,
          { chronicle.pool.host with thread }⟩).above (.push caller callers) :=
        Machine.above_next (.push caller callers) { chronicle.pool.host with thread } going
      rw [Focus.above_of_going remains] at next
      refine .inr ⟨course_records_of_inside kept workers below going answers panics, ?_⟩
      rw [next]
      exact ⟨form, caller, callers, _, rfl, remains, yields.next remains, standing, loops⟩

/-- Where a reply is due to a run, a move either gives one or does nothing to the run. -/
theorem Truthful.due (truthful : chronicle.Truthful) (kept : chronicle.Kept fun _ _ => True)
    {before rest : List (Worker Memory)} {worker : Worker Memory}
    (workers : chronicle.pool.workers = before ++ worker :: rest)
    {done : List (Happening Memory)} {call : Call Memory} {token : Token}
    (listed : course run chronicle.history = done ++ [.called call token]) :
    let now := course run (worker.machine chronicle.pool.host).records
    (∃ happening later, now = happening :: later ∧ call.Replied happening) ∨
      now = [] ∧ ∃ other ∈ before ++ (worker.machine chronicle.pool.host).next.worker :: rest,
        other.focus.Serves run call := by
  intro now
  obtain ⟨other, member, serves⟩ := truthful.waits run done call token listed
  rw [workers, List.mem_append, List.mem_cons] at member
  have elsewhere (there : other ∈ before ++ rest) : now = [] := by
    obtain ⟨standing, opened⟩ := serves.exists_loop
    exact course_records_eq_nil kept workers there opened
  rcases member with early | rfl | late
  · exact .inr ⟨elsewhere (List.mem_append_left _ early), other, List.mem_append_left _ early, serves⟩
  · have older : run < chronicle.pool.host.runs.size :=
      older_of_course kept (listed ▸ List.mem_append_right _ (.head _))
    exact (serves_next kept workers older serves).imp_right fun ⟨nothing, goesOn⟩ =>
      ⟨nothing, _, List.mem_append_right _ (.head _), goesOn⟩
  · exact .inr ⟨elsewhere (List.mem_append_right _ late), other,
      List.mem_append_right _ (.tail _ late), serves⟩

section Move

variable {before rest : List (Worker Memory)} {worker : Worker Memory}

theorem begins_of_called {call : Call Memory} {token : Token} {early late : List (Happening Memory)}
    {machine : Machine Memory last}
    (now : course run machine.records = early ++ .called call token :: late) :
    machine.next.focus.Begins run call :=
  Machine.begins_next (mem_course_recorded (by simp [now] :
    .called call token ∈ course run machine.records))

/-- Code that is called last in a move is served after it, and what is due stays due. -/
theorem Truthful.waits_after (truthful : chronicle.Truthful)
    (kept : chronicle.Kept fun _ _ => True)
    (workers : chronicle.pool.workers = before ++ worker :: rest)
    {done : List (Happening Memory)} {call : Call Memory} {token : Token}
    (listed : course run chronicle.history ++
      course run (worker.machine chronicle.pool.host).records = done ++ [.called call token]) :
    ∃ other ∈ before ++ (worker.machine chronicle.pool.host).next.worker :: rest,
      other.focus.Serves run call := by
  rcases List.eq_nil_or_concat (course run (worker.machine chronicle.pool.host).records) with
    nothing | ⟨front, happening, now⟩
  · rw [nothing, List.append_nil] at listed
    rcases truthful.due kept workers listed with ⟨_, _, replied, _⟩ | ⟨_, other, there, serves⟩
    · cases nothing.symm.trans replied
    · exact ⟨other, there, serves⟩
  · rw [List.concat_eq_append] at now
    rw [now, ← List.append_assoc] at listed
    obtain ⟨_, same⟩ := List.append_inj' listed rfl
    cases same
    exact ⟨_, List.mem_append_right _ (.head _), (begins_of_called now).serves⟩

theorem Truthful.replies_after (truthful : chronicle.Truthful)
    (kept : chronicle.Kept fun _ _ => True)
    (workers : chronicle.pool.workers = before ++ worker :: rest)
    {done after : List (Happening Memory)} {call : Call Memory} {token : Token}
    {happening : Happening Memory}
    (listed : course run chronicle.history ++
      course run (worker.machine chronicle.pool.host).records =
        done ++ .called call token :: happening :: after) :
    call.Replied happening := by
  rcases List.append_eq_append_iff.1 listed with ⟨between, rfl, now⟩ | ⟨between, earlier, now⟩
  · cases Machine.called_last (begins_of_called now).startHappenings_eq_nil now
  · rcases between with _ | ⟨first, _ | ⟨second, between⟩⟩
    · have whole : course run (worker.machine chronicle.pool.host).records =
          [] ++ .called call token :: happening :: after := now.symm
      cases Machine.called_last (begins_of_called whole).startHappenings_eq_nil whole
    · obtain ⟨rfl, later⟩ := List.cons.inj now
      rcases truthful.due kept workers earlier with ⟨_, _, replied, gives⟩ | ⟨none, _⟩
      · cases later.trans replied
        exact gives
      · cases later.trans none
    · obtain ⟨rfl, later⟩ := List.cons.inj now
      obtain ⟨rfl, _⟩ := List.cons.inj later
      exact truthful.replies run done call token happening between earlier

end Move

theorem truthful_move (kept : chronicle.Kept fun _ _ => True) (truthful : chronicle.Truthful)
    (position : Nat) : (chronicle.move position).Truthful := by
  rcases chronicle.pool.move_cases position with ⟨before, worker, rest, workers, moved⟩ | still
  · have history : (chronicle.move position).history =
        chronicle.history ++ (worker.machine chronicle.pool.host).records := by
      simp only [move, moved]
    have pool : (chronicle.move position).pool.workers =
        before ++ (worker.machine chronicle.pool.host).next.worker :: rest := by
      simp only [move, moved]
    constructor
    · intro run done call token listed
      rw [history, course_append] at listed
      rw [pool]
      exact truthful.waits_after kept workers listed
    · intro run done call token happening after listed
      rw [history, course_append] at listed
      exact truthful.replies_after kept workers listed
  · have same : chronicle.move position = chronicle := by
      simp only [move, still, List.append_nil]
    rwa [same]

theorem Reachable.truthful (reachable : chronicle.Reachable) : chronicle.Truthful := by
  obtain ⟨memory, codes, schedule, rfl⟩ := reachable
  have both : ((Pool.opening memory codes).chronicle schedule).Kept (fun _ _ => True) ∧
      ((Pool.opening memory codes).chronicle schedule).Truthful := by
    refine Pool.chronicle_induction
      (motive := fun chronicle => chronicle.Kept (fun _ _ => True) ∧ chronicle.Truthful)
      (Pool.opening memory codes) ⟨?_, ?_, ?_⟩ ?_ schedule
    · exact Invariant.nothing.chronicle memory codes trivial []
    · intro run before call token listed
      simp [course] at listed
    · intro run before call token happening after listed
      simp [course] at listed
    · rintro chronicle position ⟨kept, truthful⟩
      exact ⟨kept_move .nothing chronicle position kept, truthful_move kept truthful position⟩
  exact both.2

end Chronicle

end Trampoline
