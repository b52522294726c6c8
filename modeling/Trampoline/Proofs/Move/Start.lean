import Trampoline.Proofs.Shelter
import Trampoline.Proofs.Situation

/-!
Moves that start runs and hand tasks to contexts.

`Machine.Follows` says that effects lead to the machine after a move; whatever a move does to start
a run, on whatever context, it is one effect on the situation.
-/

namespace Trampoline

variable {Memory : Type} {last form rest : Form}

/-- Effects lead to a machine, which has started a run if it shows one more than before. -/
def Machine.Follows (thread : Nat) (situation : Situation Memory)
    (happenings : List (Nat × Happening Memory)) (after : Machine Memory last) : Prop :=
  Effects thread situation (happenings ++ startHappenings situation.runs.size after)
    after.situation

namespace Machine.Follows

variable {thread : Nat} {situation : Situation Memory}
  {happenings : List (Nat × Happening Memory)} {after : Machine Memory last}

theorem startHappenings_of_size_le {runs : Nat} (few : after.host.runs.size ≤ runs) :
    startHappenings runs after = [] := by
  simp [startHappenings, Array.getElem?_eq_none few]

theorem of_effects (effects : Effects thread situation happenings after.situation)
    (few : after.host.runs.size ≤ situation.runs.size) :
    Follows thread situation happenings after := by
  rw [Follows, startHappenings_of_size_le few, List.append_nil]
  exact effects

theorem of_same (same : situation = after.situation) : Follows thread situation [] after :=
  of_effects (.of_eq same) (Nat.le_of_eq (congrArg (·.runs.size) same).symm)

theorem after_effect {next : Situation Memory} {rest : List (Nat × Happening Memory)}
    (effect : Effect thread situation happenings next)
    (follows : Follows thread next rest after) (same : next.runs.size = situation.runs.size) :
    Follows thread situation (happenings ++ rest) after := by
  rw [Follows, List.append_assoc, ← same]
  exact .more effect follows

end Machine.Follows

namespace Host

theorem runs_reply (host : Host Memory) (request : Request Memory) :
    (host.reply request).2.runs = host.runs := by
  cases request <;> simp only [reply, readSettings, install] <;> (try split) <;> rfl

theorem tasks_reply (host : Host Memory) (request : Request Memory) :
    (host.reply request).2.tasks = host.tasks := by
  cases request <;> simp only [reply, readSettings, install] <;> (try split) <;> rfl

theorem thread_reply (host : Host Memory) (request : Request Memory) :
    (host.reply request).2.thread = host.thread := by
  cases request <;> simp only [reply, readSettings, install] <;> (try split) <;> rfl

theorem warnings_emitCanceled (host : Host Memory) (canceled : List Nat) :
    (host.emitCanceled canceled).warnings = host.warnings := by
  simp [emitCanceled, warnings, List.filterMap_append, Function.comp_def, Entry.ignored?]

theorem warnings_reply (host : Host Memory) (request : Request Memory) :
    (host.reply request).2.warnings = host.warnings := by
  cases request with
  | cancel token reason => exact warnings_emitCanceled _ _
  | push parent child => exact warnings_emitCanceled _ _
  | _ => simp only [reply, readSettings, install] <;> (try split) <;> rfl

end Host

def Callers.situation (callers : Callers Memory last form) (host : Host Memory)
    (due : List (Due Memory)) : Situation Memory :=
  ⟨callers.loops, callers.openings host.thread.id, due, [], host.runs, host.warnings⟩

namespace Machine

variable {thread : Nat} {host : Host Memory} {callers : Callers Memory last .unit}

theorem startHappenings_start (plan : Plan Memory) (pending : Stack (Frame Memory)) (token : Token)
    (receiver : Receiver Memory) :
    startHappenings host.runs.size (start plan pending token receiver callers host) =
      [(host.runs.size, .started plan pending token receiver)] := by
  simp [startHappenings, start, Host.addRun]

theorem follows_start (plan : Plan Memory) (pending : Stack (Frame Memory)) (token : Token)
    (receiver : Receiver Memory) (callers : Callers Memory last .unit) (host : Host Memory)
    (direct : receiver.isForward = false) :
    Follows thread (callers.situation host host.due) []
      (start plan pending token receiver callers host) := by
  change Effects thread _ (startHappenings host.runs.size _) _
  rw [startHappenings_start]
  exact .one (.start direct)

theorem follows_launch {before behind : List (Due Memory)} (nested : Due Memory)
    (others : host.due = before ++ behind) :
    Follows thread (callers.situation host (before ++ nested :: behind)) []
      (start nested.plan nested.pending nested.token (.forward nested.completer) callers host) := by
  change Effects thread _ (startHappenings host.runs.size _)
    ⟨_, callers.openings host.thread.id, host.due, _, _, _⟩
  rw [startHappenings_start, others]
  exact .one .launch

theorem follows_perform {before behind : List (Due Memory)} (task : Task Memory)
    (others : host.due = before ++ behind) :
    Follows thread (callers.situation host (before ++ task.due?.toList ++ behind)) []
      (perform task callers host) := by
  cases task with
  | code body =>
      apply Follows.of_same
      simp [Callers.situation, perform, situation, Task.due?, others, Focus.loops, Focus.openings,
        Focus.telling]
  | run source token completer =>
      rw [Task.due?, Option.toList_some, List.append_assoc]
      exact follows_launch ⟨source, {}, token, completer⟩ others

theorem follows_perform_added (task : Task Memory) (callers : Callers Memory last .unit)
    (host : Host Memory) :
    Follows thread (callers.situation host (host.due ++ task.due?.toList)) []
      (perform task callers host) := by
  rw [← List.append_nil (host.due ++ task.due?.toList)]
  exact follows_perform task (List.append_nil host.due).symm

theorem effects_refuse (task : Task Memory) :
    Effects thread (callers.situation host (host.due ++ task.due?.toList)) []
      (callers.situation host host.due) := by
  cases task with
  | code body =>
      rw [Task.due?, Option.toList_none, List.append_nil]
      exact .none
  | run source token completer =>
      have lost : Effects thread (callers.situation host (host.due ++ [⟨source, {}, token, completer⟩]))
          [] (callers.situation host (host.due ++ [])) := .one .lose
      rwa [List.append_nil] at lost

theorem due_addTask (task : Task Memory) :
    (host.addTask task).2.due = host.due ++ task.due?.toList := by
  simp only [Host.addTask, Host.due, Array.toList_push, List.filterMap_append]
  cases task <;> rfl

theorem follows_execute (context : Context Memory) (task : Task Memory)
    (callers : Callers Memory last .unit) (host : Host Memory) :
    Follows thread (callers.situation host (host.due ++ task.due?.toList)) []
      (execute context task callers host) := by
  cases context with
  | immediate => exact follows_perform_added task callers host
  | spawner spawner label =>
      simp only [execute, spawn]
      split
      · exact .of_effects (effects_refuse task) (Nat.le_refl _)
      · have performed := @follows_perform_added Memory last thread task
          (.push (.spawning host.thread) callers)
          (.enterThread { host with spawned := host.spawned.modify spawner (· + 1) }
            (some (label ++ "-" ++ toString (host.spawned[spawner]?.getD 0))))
        exact performed
  | custom name schedule =>
      apply Follows.of_same
      simp only [Callers.situation, execute, situation, due_addTask]
      rfl

theorem follows_call (registration : Registration Memory) (token : Token)
    (completer : Completer) (callers : Callers Memory last .unit) (host : Host Memory) :
    Follows thread (callers.situation host (host.due ++ registration.due token completer)) []
      (registration.call token completer callers host) := by
  cases registration with
  | calling register =>
      apply Follows.of_same
      rw [Registration.due, List.append_nil]
      rfl
  | hopping source context =>
      exact follows_execute context (.run source token completer) callers
        (host.emit (.continuingOn context.name))
  | finishing head pending =>
      exact follows_launch ⟨head, pending, token, completer⟩ (List.append_nil host.due).symm

end Machine

end Trampoline
