import Trampoline.Proofs.Ledger
import Trampoline.Proofs.Move.Next
import Trampoline.Proofs.Pool

/-!
What every effect keeps holds of every chronicle.

The workers of a pool move one at a time, and a move is made of effects on the situation of all of
them, where it does not matter which worker has which loop or registration open.
-/

namespace Trampoline

variable {Memory : Type}

def Pool.situation (pool : Pool Memory) : Situation Memory where
  loops := pool.workers.flatMap fun worker => worker.focus.loops
  openings := pool.workers.flatMap fun worker => worker.focus.openings worker.thread.id
  due := pool.host.due
  telling := pool.workers.flatMap fun worker => worker.focus.telling
  runs := pool.host.runs
  warnings := pool.host.warnings

variable {thread : Nat} {history : List (Record Memory)} {situation next after : Situation Memory}
  {happenings : List (Nat × Happening Memory)}

/-- The same situation but for the order of what is open. -/
structure Situation.Similar (situation other : Situation Memory) : Prop where
  loops : situation.loops.Perm other.loops
  openings : situation.openings.Perm other.openings
  due : situation.due = other.due
  telling : situation.telling.Perm other.telling
  runs : situation.runs = other.runs
  warnings : situation.warnings = other.warnings

theorem Situation.Similar.symm {other : Situation Memory} (similar : situation.Similar other) :
    other.Similar situation :=
  ⟨similar.loops.symm, similar.openings.symm, similar.due.symm, similar.telling.symm,
    similar.runs.symm, similar.warnings.symm⟩

def Situation.beside (situation : Situation Memory) (loops : List (Nat × Standing Memory))
    (openings : List Opening) (telling : List (Completer × Outcome Value)) : Situation Memory where
  loops := situation.loops ++ loops
  openings := situation.openings ++ openings
  due := situation.due
  telling := situation.telling ++ telling
  runs := situation.runs
  warnings := situation.warnings

section Beside

variable {loops : List (Nat × Standing Memory)} {openings : List Opening}
  {telling : List (Completer × Outcome Value)}

theorem Maker.Takes.append {maker : Maker} {completer : Completer} {outcome : Outcome Value}
    {waiting rest : List (Completer × Outcome Value)}
    (takes : maker.Takes completer outcome waiting rest)
    (telling : List (Completer × Outcome Value)) :
    maker.Takes completer outcome (waiting ++ telling) (rest ++ telling) := by
  cases maker with
  | run =>
      simp only [Takes] at takes ⊢
      rw [takes, List.cons_append]
  | code | registration =>
      simp only [Takes] at takes ⊢
      rw [takes]

theorem Effect.beside (effect : Effect thread situation happenings after)
    (loops : List (Nat × Standing Memory)) (openings : List Opening)
    (telling : List (Completer × Outcome Value)) :
    Effect thread (situation.beside loops openings telling) happenings
      (after.beside loops openings telling) := by
  cases effect with
  | loop leads inner retokened => exact .loop leads inner retokened
  | reach armed => exact .reach armed
  | start direct => exact .start direct
  | launch => exact .launch
  | lose => exact .lose
  | ignore refused takes => exact .ignore refused (takes.append telling)
  | park found accepted takes => exact .park found accepted (takes.append telling)
  | resume found accepted takes => exact .resume found accepted (takes.append telling)
  | wait found here waits => exact .wait found here waits
  | takeUp found here taken => exact .takeUp found here taken
  | tell found untold =>
      simp only [Situation.beside, List.append_assoc]
      exact .tell found untold

theorem Effects.beside (effects : Effects thread situation happenings after)
    (loops : List (Nat × Standing Memory)) (openings : List Opening)
    (telling : List (Completer × Outcome Value)) :
    Effects thread (situation.beside loops openings telling) happenings
      (after.beside loops openings telling) := by
  induction effects with
  | none => exact .none
  | more effect _ inductionHypothesis =>
      exact .more (effect.beside loops openings telling) inductionHypothesis

end Beside

theorem Pool.similar_beside (before after : List (Worker Memory)) (worker : Worker Memory)
    (host : Host Memory) :
    Situation.Similar (Pool.situation ⟨before ++ worker :: after, host⟩)
      ((worker.machine host).situation.beside
        ((before ++ after).flatMap fun worker => worker.focus.loops)
        ((before ++ after).flatMap fun worker => worker.focus.openings worker.thread.id)
        ((before ++ after).flatMap fun worker => worker.focus.telling)) where
  loops := by
    simp only [Pool.situation, List.flatMap_append, List.flatMap_cons]
    exact List.perm_append_comm_assoc ..
  openings := by
    simp only [Pool.situation, List.flatMap_append, List.flatMap_cons]
    exact List.perm_append_comm_assoc ..
  due := rfl
  telling := by
    simp only [Pool.situation, List.flatMap_append, List.flatMap_cons]
    exact List.perm_append_comm_assoc ..
  runs := rfl
  warnings := rfl

section Similar

variable {other : Situation Memory}

theorem Tracked.of_similar (tracked : Tracked history situation)
    (similar : situation.Similar other) : Tracked history other := by
  intro run
  have accounts := tracked run
  have standings : (situation.standings run).Perm (other.standings run) := by
    rw [Situation.standings, Situation.standings, similar.runs]
    exact (similar.loops.filterMap _).append_right _
  rw [similar.runs] at accounts
  generalize situation.standings run = places at accounts standings
  generalize receiverOf other.runs run = receiver? at accounts ⊢
  generalize course run history = done at accounts ⊢
  cases accounts with
  | unborn =>
      rw [standings.symm.eq_nil]
      exact .unborn
  | born leads =>
      rw [standings.symm.eq_singleton]
      exact .born leads

theorem Ledger.of_similar (ledger : Ledger history situation) (similar : situation.Similar other) :
    Ledger history other := by
  intro run
  have account := ledger run
  have openings : (openingsOf run situation.openings).Perm (openingsOf run other.openings) :=
    similar.openings.filter _
  rw [similar.runs] at account
  refine ⟨account.numbered, account.past, account.fits, account.first, ?_, ?_⟩
  · intro opening member
    exact account.opened opening (openings.mem_iff.2 member)
  · intro epoch
    rw [← openings.countP_eq]
    exact account.counted epoch

end Similar

/-- What every effect keeps, whatever the order of what is open. -/
structure Invariant (motive : List (Record Memory) → Situation Memory → Prop) : Prop where
  similar : ∀ {history situation other}, motive history situation →
    Situation.Similar situation other → motive history other
  effect : ∀ {history situation thread happenings after}, Tracked history situation →
    Ledger history situation → motive history situation →
      Effect thread situation happenings after → motive (history ++ recorded thread happenings) after

structure Kept (motive : List (Record Memory) → Situation Memory → Prop)
    (history : List (Record Memory)) (situation : Situation Memory) : Prop where
  tracked : Tracked history situation
  ledger : Ledger history situation
  kept : motive history situation

theorem Ledger.faithful (ledger : Ledger history situation) : situation.Faithful := by
  intro opening member boundary outcome pending found same parked
  have account := ledger opening.run
  have fits := account.fits boundary found
  simp only [Boundary.Fits, parked] at fits
  obtain ⟨_, reach, reached, epoch, token, _⟩ := fits
  obtain ⟨other, otherReached, otherEpoch, otherToken, _⟩ :=
    account.opened opening (List.mem_filter.2 ⟨member, decide_eq_true rfl⟩)
  have one := account.eq_of_epoch_eq reached otherReached (by rw [epoch, otherEpoch, same])
  rw [← token, one, otherToken]

theorem Situation.ready_of_ledger (tracked : Tracked history situation)
    (ledger : Ledger history situation) : situation.Ready where
  bounded := by
    intro opening member
    have account := ledger opening.run
    obtain ⟨reach, reached, _⟩ :=
      account.opened opening (List.mem_filter.2 ⟨member, decide_eq_true rfl⟩)
    have bounds := account.epoch_bounds reached
    cases found : boundaryOf situation.runs opening.run with
    | none =>
        rw [found] at bounds
        simp [epochs] at bounds
        omega
    | some boundary => exact ⟨boundary, rfl⟩
  untold := by
    intro run outcome member
    have listed : Standing.ending outcome ∈ loopStandings situation.loops run :=
      List.mem_filterMap.2 ⟨_, member, if_pos rfl⟩
    have single := (tracked run).eq_singleton (List.mem_append_left _ listed)
    obtain ⟨entry, found⟩ := tracked.entry_of_singleton single
    refine ⟨entry, found, ?_⟩
    cases told : entry.outcome with
    | none => rfl
    | some other =>
        exfalso
        have lengths := congrArg List.length single
        have positive := List.length_pos_of_mem listed
        simp [Situation.standings, hostStandings_of_some found, Run.standings, told] at lengths
        omega

theorem Situation.Ready.of_beside {loops : List (Nat × Standing Memory)}
    {openings : List Opening} {telling : List (Completer × Outcome Value)}
    (ready : (situation.beside loops openings telling).Ready) : situation.Ready where
  bounded opening member := ready.bounded opening (List.mem_append_left _ member)
  untold run outcome member := ready.untold run outcome (List.mem_append_left _ member)

theorem Pool.situation_opening (memory : Memory) (codes : List (Option String × Code Memory .unit)) :
    (Pool.opening memory codes).situation = ⟨[], [], [], [], #[], []⟩ := by
  simp only [situation, Situation.mk.injEq]
  refine ⟨?_, ?_, rfl, ?_, rfl, rfl⟩ <;>
    · apply List.flatMap_eq_nil_iff.2
      intro worker member
      obtain ⟨position, name, rfl⟩ := List.mem_mapIdx.1 member
      rfl

theorem Tracked.of_nothing : Tracked [] (⟨[], [], [], [], #[], []⟩ : Situation Memory) :=
  fun _ => .unborn

theorem Ledger.of_nothing : Ledger [] (⟨[], [], [], [], #[], []⟩ : Situation Memory) := by
  intro run
  constructor
  · rfl
  · intro reach member
    cases member
  · intro boundary found
    cases found
  · intro epoch
    rfl
  · intro opening member
    cases member
  · intro epoch
    rfl

section Kept

variable {motive : List (Record Memory) → Situation Memory → Prop}

theorem Kept.effects (invariant : Invariant motive) (holds : Kept motive history situation)
    (effects : Effects thread situation happenings after) :
    Kept motive (history ++ recorded thread happenings) after := by
  induction effects generalizing history with
  | none =>
      rw [recorded, List.map_nil, List.append_nil]
      exact holds
  | @more situation next goal happenings rest first _ inductionHypothesis =>
      have taken : Kept motive (history ++ recorded thread happenings) next :=
        ⟨holds.tracked.effect holds.ledger.faithful first, holds.ledger.effect holds.tracked first,
          invariant.effect holds.tracked holds.ledger holds.kept first⟩
      have reached := inductionHypothesis taken
      rwa [List.append_assoc, recorded, recorded, ← List.map_append] at reached

theorem Kept.of_similar (invariant : Invariant motive) {other : Situation Memory}
    (holds : Kept motive history situation) (same : situation.Similar other) : Kept motive history other :=
  ⟨holds.tracked.of_similar same, holds.ledger.of_similar same, invariant.similar holds.kept same⟩

/-- What a chronicle keeps from one move to the next. -/
structure Chronicle.Kept (motive : List (Record Memory) → Situation Memory → Prop)
    (chronicle : Chronicle Memory) : Prop where
  sheltered : ∀ worker ∈ chronicle.pool.workers, worker.focus.Sheltered fun _ => false
  kept : Trampoline.Kept motive chronicle.history chronicle.pool.situation

/-- A move of a worker is made of effects. -/
theorem Chronicle.Kept.effects_worker (invariant : Invariant motive) {chronicle : Chronicle Memory}
    (holds : chronicle.Kept motive) {before rest : List (Worker Memory)} {worker : Worker Memory}
    (workers : chronicle.pool.workers = before ++ worker :: rest) :
    let machine := worker.machine chronicle.pool.host
    Effects machine.host.thread.id machine.situation machine.happenings machine.next.situation := by
  obtain ⟨history, ⟨all, host⟩⟩ := chronicle
  obtain rfl : all = before ++ worker :: rest := workers
  have kept := holds.kept.of_similar invariant (Pool.similar_beside before rest worker host)
  have ready := Situation.ready_of_ledger kept.tracked kept.ledger
  exact Machine.effects_next _ (holds.sheltered worker (by simp)) ready.of_beside

theorem Chronicle.kept_move (invariant : Invariant motive) (chronicle : Chronicle Memory)
    (position : Nat) (holds : chronicle.Kept motive) : (chronicle.move position).Kept motive := by
  have sheltered : ∀ worker ∈ (chronicle.pool.move position).2.workers,
      worker.focus.Sheltered fun _ => false :=
    Pool.forall_workers_move holds.sheltered fun worker found =>
      Machine.sheltered_next _ (Focus.spares_none _ _)
        (holds.sheltered worker (List.mem_of_getElem? found))
  refine ⟨sheltered, ?_⟩
  obtain ⟨history, pool⟩ := chronicle
  rcases pool.move_cases position with
    ⟨before, worker, rest, workers, moved⟩ | still
  · have effects := holds.effects_worker invariant workers
    obtain ⟨_, host⟩ := pool
    subst workers
    have machineKept := holds.kept.of_similar invariant (Pool.similar_beside before rest worker host)
    have after := machineKept.effects invariant (effects.beside _ _ _)
    have together := after.of_similar invariant
      (Pool.similar_beside before rest (worker.machine host).next.worker
        (worker.machine host).next.host).symm
    simp only [move, moved]
    exact together
  · simp only [move, still, List.append_nil]
    exact holds.kept

/-- What holds at first and is kept by every effect holds of every chronicle. -/
theorem Invariant.chronicle (invariant : Invariant motive) (memory : Memory)
    (codes : List (Option String × Code Memory .unit))
    (first : motive [] (Pool.opening memory codes).situation) (schedule : List Nat) :
    ((Pool.opening memory codes).chronicle schedule).Kept motive := by
  refine Pool.chronicle_induction _ ?_ (Chronicle.kept_move invariant) schedule
  constructor
  · intro worker member
    obtain ⟨position, name, rfl⟩ := List.mem_mapIdx.1 member
    exact ⟨trivial, .inl rfl⟩
  · rw [Pool.situation_opening] at first ⊢
    exact ⟨.of_nothing, .of_nothing, first⟩

end Kept

section Chronicle

variable (memory : Memory) (codes : List (Option String × Code Memory .unit)) (schedule : List Nat)

theorem Invariant.nothing : Invariant (fun (_ : List (Record Memory)) _ => True) :=
  ⟨fun _ _ => trivial, fun _ _ _ _ => trivial⟩

theorem Pool.tracked_chronicle :
    Tracked ((Pool.opening memory codes).chronicle schedule).history
      ((Pool.opening memory codes).chronicle schedule).pool.situation :=
  (Invariant.nothing.chronicle memory codes trivial schedule).kept.tracked

theorem Pool.ledger_chronicle :
    Ledger ((Pool.opening memory codes).chronicle schedule).history
      ((Pool.opening memory codes).chronicle schedule).pool.situation :=
  (Invariant.nothing.chronicle memory codes trivial schedule).kept.ledger

end Chronicle

end Trampoline
