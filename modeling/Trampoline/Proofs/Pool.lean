import Trampoline.Proofs.Happening

/-!
Threads that share a host.

Each worker is a machine without its host; a pool moves by letting one worker make one move, so a
schedule of positions stands for any interleaving of the threads.  A chronicle is what a schedule
makes of a pool, with all that has happened, the latest last.
-/

namespace Trampoline

variable {Memory : Type} {last : Form}

/-- What a thread does, apart from the host. -/
structure Worker (Memory : Type) where
  {last : Form}
  focus : Focus Memory last
  thread : Thread

structure Pool (Memory : Type) where
  workers : List (Worker Memory)
  host : Host Memory

/-- A pool and what has happened in it. -/
structure Chronicle (Memory : Type) where
  history : List (Record Memory) := []
  pool : Pool Memory

def Worker.machine (worker : Worker Memory) (host : Host Memory) : Machine Memory worker.last :=
  ⟨worker.focus, { host with thread := worker.thread }⟩

def Machine.worker (machine : Machine Memory last) : Worker Memory :=
  ⟨machine.focus, machine.host.thread⟩

namespace Pool

/-- A fresh host, with a worker for each piece of code and the name of its thread. -/
def opening (memory : Memory) (codes : List (Option String × Code Memory .unit)) : Pool Memory where
  workers := codes.mapIdx fun id (name, code) => ⟨.code code .bottom, { id, name }⟩
  host := { memory, threads := codes.length }

def move (pool : Pool Memory) (position : Nat) : List (Record Memory) × Pool Memory :=
  match pool.workers[position]? with
  | none => ([], pool)
  | some worker =>
      let machine := worker.machine pool.host
      (machine.records,
        { workers := pool.workers.set position machine.next.worker, host := machine.next.host })

end Pool

namespace Chronicle

def move (chronicle : Chronicle Memory) (position : Nat) : Chronicle Memory :=
  { history := chronicle.history ++ (chronicle.pool.move position).1
    pool := (chronicle.pool.move position).2 }

end Chronicle

/-- What comes of a pool when its workers move in the order of a schedule. -/
def Pool.chronicle (pool : Pool Memory) (schedule : List Nat) : Chronicle Memory :=
  schedule.foldl Chronicle.move { pool }

def Plan.alone (plan : Plan Memory) : List (Option String × Code Memory .unit) :=
  [(none, .run plan .uncancelable (fun _ => Code.unit) fun _ => Code.unit)]

/-- What holds at first and is kept by every move holds whatever the schedule. -/
theorem Pool.chronicle_induction {motive : Chronicle Memory → Prop} (pool : Pool Memory)
    (first : motive { pool })
    (move : ∀ chronicle position, motive chronicle → motive (chronicle.move position))
    (schedule : List Nat) : motive (pool.chronicle schedule) := by
  unfold Pool.chronicle
  generalize ({ pool } : Chronicle Memory) = chronicle at first
  induction schedule generalizing chronicle with
  | nil => exact first
  | cons position rest inductionHypothesis =>
      exact inductionHypothesis _ (move chronicle position first)

theorem Pool.move_of_worker {pool : Pool Memory} {position : Nat} {worker : Worker Memory}
    (found : pool.workers[position]? = some worker) :
    pool.move position = ((worker.machine pool.host).records,
      { workers := pool.workers.set position (worker.machine pool.host).next.worker
        host := (worker.machine pool.host).next.host }) := by
  rw [move, found]

theorem Pool.move_of_none {pool : Pool Memory} {position : Nat}
    (missing : pool.workers[position]? = none) : pool.move position = ([], pool) := by
  rw [move, missing]

/-- What holds of all workers, and of what becomes of the one that moves, holds of all afterwards. -/
theorem Pool.forall_workers_move {pool : Pool Memory} {position : Nat}
    {motive : Worker Memory → Prop} (each : ∀ worker ∈ pool.workers, motive worker)
    (moves : ∀ worker, pool.workers[position]? = some worker →
      motive (worker.machine pool.host).next.worker) :
    ∀ worker ∈ (pool.move position).2.workers, motive worker := by
  intro other member
  cases found : pool.workers[position]? with
  | none =>
      rw [move_of_none found] at member
      exact each other member
  | some worker =>
      rw [move_of_worker found] at member
      rcases List.mem_or_eq_of_mem_set member with earlier | rfl
      · exact each other earlier
      · exact moves worker found

theorem Pool.move_cases (pool : Pool Memory) (position : Nat) :
    (∃ before worker after, pool.workers = before ++ worker :: after ∧
      pool.move position =
        ((worker.machine pool.host).records,
          { workers := before ++ (worker.machine pool.host).next.worker :: after
            host := (worker.machine pool.host).next.host })) ∨
      pool.move position = ([], pool) := by
  unfold Pool.move
  cases found : pool.workers[position]? with
  | none => exact .inr rfl
  | some worker =>
      obtain ⟨bound, equality⟩ := List.getElem?_eq_some_iff.1 found
      refine .inl ⟨pool.workers.take position, worker, pool.workers.drop (position + 1), ?_, ?_⟩
      · rw [← equality, List.getElem_cons_drop, List.take_append_drop]
      · simp only [List.set_eq_take_append_cons_drop, bound, if_true]

end Trampoline
