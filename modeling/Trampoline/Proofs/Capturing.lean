import Trampoline.Proofs.Later
import Trampoline.Proofs.Move.Panics

/-!
How many panics are captured, whatever the schedule.

Of the panics that a worker raises under guards each is captured, one after the other, but for the
last one while it unwinds.  All threads count captures together, and number them by that count.
-/

namespace Trampoline

variable {Memory Reading : Type} {last form rest : Form}

def Happening.panic? : Happening Memory → Option Panic
  | .panicked panic => some panic
  | _ => none

abbrev Worker.Reader (Memory Reading : Type) := Worker Memory → Host Memory → List Reading

namespace Worker

def captures : Reader Memory Capture := fun worker host => (worker.machine host).captures

/-- The panics that code is about to raise under a guard. -/
def raises : Reader Memory Payload := fun worker _ => worker.focus.raises

/-- The panics that unwind to a guard. -/
def inFlight : Reader Memory Payload := fun worker _ => worker.focus.inFlight

end Worker

namespace Pool

def reading (pool : Pool Memory) (read : Worker.Reader Memory Reading) (position : Nat) :
    List Reading :=
  pool.workers[position]?.toList.flatMap (read · pool.host)

def readings (pool : Pool Memory) (read : Worker.Reader Memory Reading) :
    List Nat → List (Nat × Reading)
  | [] => []
  | position :: schedule =>
      (pool.reading read position).map (position, ·) ++
        readings (pool.move position).2 read schedule

end Pool

def readingsOf (position : Nat) (readings : List (Nat × Reading)) : List Reading :=
  readings.filterMap fun (other, reading) => if other = position then some reading else none

section Readings

variable {position other : Nat}

theorem readingsOf_append (readings more : List (Nat × Reading)) :
    readingsOf position (readings ++ more) = readingsOf position readings ++ readingsOf position more :=
  List.filterMap_append ..

theorem readingsOf_self (readings : List Reading) :
    readingsOf position (readings.map (position, ·)) = readings := by
  simp [readingsOf, List.filterMap_map]

theorem readingsOf_of_ne (different : other ≠ position) (readings : List Reading) :
    readingsOf position (readings.map (other, ·)) = [] := by
  simp [readingsOf, List.filterMap_map, different]

end Readings

namespace Pool

variable {pool : Pool Memory} {position other : Nat} {worker : Worker Memory}

theorem worker_move_self (found : pool.workers[position]? = some worker) :
    (pool.move position).2.workers[position]? =
      some (worker.machine pool.host).next.worker := by
  rw [move_of_worker found, List.getElem?_set_self (List.getElem?_eq_some_iff.1 found).1]

theorem worker_move_of_ne (different : other ≠ position) :
    (pool.move other).2.workers[position]? = pool.workers[position]? := by
  cases found : pool.workers[other]? with
  | none => rw [move_of_none found]
  | some worker => rw [move_of_worker found, List.getElem?_set_ne different]

theorem reading_of_worker (read : Worker.Reader Memory Reading)
    (found : pool.workers[position]? = some worker) :
    pool.reading read position = read worker pool.host := by
  rw [reading, found, Option.toList_some, List.flatMap_singleton]

theorem reading_of_none (read : Worker.Reader Memory Reading)
    (missing : pool.workers[position]? = none) : pool.reading read position = [] := by
  rw [reading, missing, Option.toList_none, List.flatMap_nil]

/-- What was in flight or is raised is captured or in flight. -/
theorem balance_move (pool : Pool Memory) (position : Nat) :
    pool.reading Worker.inFlight position ++ pool.reading Worker.raises position =
      (pool.reading Worker.captures position).map Capture.payload ++
        (pool.move position).2.reading Worker.inFlight position := by
  cases found : pool.workers[position]? with
  | none =>
      rw [move_of_none found]
      simp only [reading_of_none _ found, List.map_nil]
  | some worker =>
      simp only [reading_of_worker _ found, reading_of_worker _ (worker_move_self found)]
      exact (worker.machine pool.host).balance_next

theorem capturedPanics_move (pool : Pool Memory) (position : Nat) :
    (pool.move position).2.host.capturedPanics =
        pool.host.capturedPanics + (pool.reading Worker.captures position).length ∧
      (pool.reading Worker.captures position).map (·.panic.number) =
        List.range' (pool.host.capturedPanics + 1)
          (pool.reading Worker.captures position).length := by
  cases found : pool.workers[position]? with
  | none =>
      rw [move_of_none found, reading_of_none _ found]
      exact ⟨rfl, rfl⟩
  | some worker =>
      rw [move_of_worker found, reading_of_worker _ found]
      exact (worker.machine pool.host).capturedPanics_next

end Pool

namespace Chronicle

variable (chronicle : Chronicle Memory) (schedule : List Nat)

/-- Each panic is captured once, in the order in which a worker raises them. -/
theorem balance (position : Nat) :
    chronicle.pool.reading Worker.inFlight position ++
        readingsOf position (chronicle.pool.readings Worker.raises schedule) =
      (readingsOf position (chronicle.pool.readings Worker.captures schedule)).map
          Capture.payload ++
        (chronicle.after schedule).pool.reading Worker.inFlight position := by
  induction schedule generalizing chronicle with
  | nil => exact List.append_nil _
  | cons other schedule inductionHypothesis =>
      have later := inductionHypothesis (chronicle.move other)
      simp only [Pool.readings, readingsOf_append, List.map_append]
      by_cases same : other = position
      · subst same
        rw [readingsOf_self, readingsOf_self, ← List.append_assoc, Pool.balance_move,
          List.append_assoc, List.append_assoc]
        exact congrArg _ later
      · rw [readingsOf_of_ne same, readingsOf_of_ne same]
        have still : (chronicle.move other).pool.reading Worker.inFlight position =
            chronicle.pool.reading Worker.inFlight position := by
          simp only [Pool.reading, Chronicle.move, Pool.worker_move_of_ne same, Worker.inFlight]
        rw [still] at later
        exact later

theorem capturedPanics_after :
    (chronicle.after schedule).pool.host.capturedPanics =
        chronicle.pool.host.capturedPanics +
          (chronicle.pool.readings Worker.captures schedule).length ∧
      (chronicle.pool.readings Worker.captures schedule).map (·.2.panic.number) =
        List.range' (chronicle.pool.host.capturedPanics + 1)
          (chronicle.pool.readings Worker.captures schedule).length := by
  induction schedule generalizing chronicle with
  | nil => exact ⟨rfl, rfl⟩
  | cons position schedule inductionHypothesis =>
      obtain ⟨counted, numbered⟩ := inductionHypothesis (chronicle.move position)
      obtain ⟨countedNow, numberedNow⟩ := chronicle.pool.capturedPanics_move position
      rw [Chronicle.move, countedNow] at counted numbered
      simp only [Pool.readings, List.map_append, List.length_append, List.length_map, List.map_map]
      constructor
      · rw [← Nat.add_assoc]
        exact counted
      · rw [numbered, ← List.range'_append_1, ← numberedNow]
        simp only [Function.comp_def, Nat.add_right_comm]

end Chronicle

section Heard

def heard (happenings : List (Nat × Happening Memory)) : List Panic :=
  happenings.filterMap fun noted => noted.2.panic?

variable {panics : List Panic} {happenings : Nat → List (Happening Memory)}

theorem heard_append (happenings more : List (Nat × Happening Memory)) :
    heard (happenings ++ more) = heard happenings ++ heard more :=
  List.filterMap_append ..

theorem Loop.heard_note (loop : Loop Memory form)
    (each : ∀ run, (happenings run).filterMap Happening.panic? = panics) :
    (heard (loop.note happenings)).Sublist panics := by
  obtain ⟨purpose, pending, token⟩ := loop
  cases purpose with
  | run run =>
      simp only [note, heard, List.filterMap_map]
      exact each run ▸ .refl _
  | step => exact List.nil_sublist _

theorem Caller.heard_note (caller : Caller Memory form rest)
    (each : ∀ run, (happenings run).filterMap Happening.panic? = panics) :
    (heard (caller.note happenings)).Sublist panics := by
  unfold note
  split
  all_goals first | exact Loop.heard_note _ each | exact List.nil_sublist _

theorem Plan.panics_happenings (plan : Plan Memory) (host : Host Memory) (run : Nat)
    (pending : Stack (Frame Memory)) (token : Token) :
    (plan.happenings host run pending token).filterMap Happening.panic? = [] := by
  cases plan <;> rfl

theorem Caller.heard_panic (caller : Caller Memory form rest) (panic : Panic) :
    (heard (caller.panicHappenings panic)).Sublist (if caller.isGuard then [panic] else []) := by
  cases caller with
  | suspended | delayed => exact Loop.heard_note _ fun _ => rfl
  | namingSuspended | namingDelayed | continuing | mapping | switching | restoring =>
      exact Loop.heard_note _ fun _ => rfl
  | _ => exact List.nil_sublist _

theorem Caller.heard_answer (caller : Caller Memory form rest) (answer : Answer Memory form) :
    heard (caller.answerHappenings answer) = [] := by
  refine List.sublist_nil.1 ?_
  unfold answerHappenings
  split
  · exact .refl _
  · exact .refl _
  · exact caller.heard_note fun _ => rfl

theorem Machine.heard_happenings (machine : Machine Memory last) :
    (heard machine.happenings).Sublist (machine.captures.map Capture.panic) := by
  have started : heard (startHappenings machine.host.runs.size machine.next) = [] := by
    unfold startHappenings
    split <;> rfl
  rw [happenings, heard_append, started, List.append_nil]
  obtain ⟨focus, host⟩ := machine
  cases focus with
  | code code callers =>
      cases callers with
      | bottom => cases code <;> exact List.nil_sublist _
      | push caller callers =>
          cases code with
          | done answer => rw [Focus.happenings, caller.heard_answer]; exact List.nil_sublist _
          | _ => exact List.nil_sublist _
  | iterate loop plan callers =>
      refine (loop.heard_note fun run => ?_).trans (List.nil_sublist _)
      dsimp only
      split
      · rfl
      · exact plan.panics_happenings host run loop.pending loop.token
  | feed loop result callers =>
      refine (loop.heard_note fun run => ?_).trans (List.nil_sublist _)
      rw [List.filterMap_map]
      exact List.filterMap_eq_nil_iff.2 fun _ _ => rfl
  | finish run outcome callers =>
      dsimp only [Focus.happenings]
      split <;> exact List.nil_sublist _
  | complete completer outcome callers =>
      dsimp only [Focus.happenings]
      split <;> exact List.nil_sublist _
  | unwind payload callers =>
      cases callers with
      | bottom => exact List.nil_sublist _
      | push caller callers =>
          refine (caller.heard_panic _).trans ?_
          simp only [captures]
          split <;> exact .refl _
  | halted ending => exact List.nil_sublist _

end Heard

namespace Chronicle

variable (chronicle : Chronicle Memory) (schedule : List Nat)

/-- What runs hear of has been captured, each panic once. -/
theorem heard_after :
    ∃ more, (chronicle.after schedule).history = chronicle.history ++ more ∧
      (more.filterMap (·.happening.panic?)).Sublist
        ((chronicle.pool.readings Worker.captures schedule).map (·.2.panic)) := by
  induction schedule generalizing chronicle with
  | nil => exact ⟨[], (List.append_nil _).symm, List.nil_sublist _⟩
  | cons position schedule inductionHypothesis =>
      obtain ⟨more, added, heard⟩ := inductionHypothesis (chronicle.move position)
      refine ⟨(chronicle.pool.move position).1 ++ more, ?_, ?_⟩
      · rw [← List.append_assoc]
        exact added
      · rw [List.filterMap_append, Pool.readings, List.map_append]
        refine List.Sublist.append ?_ heard
        cases found : chronicle.pool.workers[position]? with
        | none =>
            rw [Pool.move_of_none found]
            exact List.nil_sublist _
        | some worker =>
            rw [Pool.move_of_worker found, Pool.reading_of_worker _ found, Machine.records,
              recorded, List.filterMap_map, List.map_map]
            exact (worker.machine chronicle.pool.host).heard_happenings

end Chronicle

end Trampoline
