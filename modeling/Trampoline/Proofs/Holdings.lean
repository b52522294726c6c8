import Trampoline.Machine.Next

/-!
What is held by a host: runs, tasks and plans.

A host changes what it holds one entry at a time, so a property of each entry is kept if the entry
that changes keeps it.
-/

namespace Trampoline

variable {Memory : Type} {onRun : Run Memory → Prop} {onTask : Task Memory → Prop}
  {onPlan : Plan Memory → Prop} {host after : Host Memory}

/-- Something that holds of each run, of each task that is left and of each plan that is kept. -/
structure Host.Holds (onRun : Run Memory → Prop) (onTask : Task Memory → Prop)
    (onPlan : Plan Memory → Prop) (host : Host Memory) : Prop where
  runs : ∀ (run : Nat) (entry : Run Memory), host.runs[run]? = some entry → onRun entry
  tasks : ∀ (number : Nat) (task : Task Memory),
    host.tasks[number]? = some (some task) → onTask task
  kept : ∀ (kept : Nat) (plan : Plan Memory), host.kept[kept]? = some plan → onPlan plan

namespace Host.Holds

theorem of_same (holds : host.Holds onRun onTask onPlan) (runs : after.runs = host.runs)
    (tasks : after.tasks = host.tasks) (kept : after.kept = host.kept) :
    after.Holds onRun onTask onPlan :=
  ⟨runs ▸ holds.runs, tasks ▸ holds.tasks, kept ▸ holds.kept⟩

theorem held (holds : host.Holds onRun onTask onPlan) (never : onPlan .never) (kept : Nat) :
    onPlan (host.held kept) := by
  unfold Host.held
  cases found : host.kept[kept]? with
  | none => exact never
  | some plan => exact holds.kept kept plan found

theorem keep (holds : host.Holds onRun onTask onPlan) {plan : Plan Memory} (more : onPlan plan) :
    (host.keep plan).2.Holds onRun onTask onPlan := by
  refine ⟨holds.runs, holds.tasks, fun kept other found => ?_⟩
  rw [Host.keep, Array.getElem?_push] at found
  split at found
  · cases found
    exact more
  · exact holds.kept kept other found

theorem addRun (holds : host.Holds onRun onTask onPlan) {receiver : Receiver Memory}
    (more : onRun { receiver }) : (host.addRun receiver).2.Holds onRun onTask onPlan := by
  refine ⟨fun run entry found => ?_, holds.tasks, holds.kept⟩
  rw [Host.addRun, Array.getElem?_push] at found
  split at found
  · cases found
    exact more
  · exact holds.runs run entry found

theorem addTask (holds : host.Holds onRun onTask onPlan) {task : Task Memory} (more : onTask task) :
    (host.addTask task).2.Holds onRun onTask onPlan := by
  refine ⟨holds.runs, fun number other found => ?_, holds.kept⟩
  rw [Host.addTask, Array.getElem?_push] at found
  split at found
  · cases found
    exact more
  · exact holds.tasks number other found

theorem takeTask (holds : host.Holds onRun onTask onPlan) (number : Nat) :
    (host.takeTask number).2.Holds onRun onTask onPlan := by
  refine ⟨holds.runs, fun other task found => ?_, holds.kept⟩
  rw [Host.takeTask, Array.getElem?_modify] at found
  split at found
  · obtain ⟨_, _, gone⟩ := Option.map_eq_some_iff.1 found
    cases gone
  · exact holds.tasks other task found

theorem modify (holds : host.Holds onRun onTask onPlan) (run : Nat)
    (change : Run Memory → Run Memory) (changes : ∀ entry, onRun entry → onRun (change entry)) :
    Host.Holds onRun onTask onPlan { host with runs := host.runs.modify run change } := by
  refine ⟨fun other entry found => ?_, holds.tasks, holds.kept⟩
  rw [Array.getElem?_modify] at found
  split at found
  · obtain ⟨before, listed, rfl⟩ := Option.map_eq_some_iff.1 found
    exact changes before (holds.runs other before listed)
  · exact holds.runs other entry found

end Host.Holds

theorem Host.task_of_taken {number : Nat} {task : Task Memory}
    (taken : host.takeTask number = (some task, after)) : host.tasks[number]? = some (some task) :=
  Option.join_eq_some_iff.1 (congrArg Prod.fst taken)

end Trampoline
