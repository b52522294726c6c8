import Trampoline.Proofs.Reachable

/-!
What is kept between the records of a run and its boundary.

Of all the effects a move may have, a run is concerned with those on its own boundary: it reaches
one, somebody tries to complete it, and its registration returns.  A relation between what has
happened to a run and the boundary it is left with holds of every run in every chronicle if each of
these keeps it.
-/

namespace Trampoline

variable {Memory : Type}

/-- A relation that is kept by whatever happens to a run. -/
structure Upkeep (motive : List (Record Memory) → Option (Boundary Memory) → Prop) : Prop where
  nothing : motive [] none
  silent : ∀ {records more boundary? after?}, motive records boundary? →
    (∀ record ∈ more, record.isSilent = true) → Account.Steady boundary? after? →
      motive (records ++ more) after?
  reach : ∀ {records boundary?} run thread registration token pending, motive records boundary? →
    let armed := (boundary?.getD { token }).arm token thread pending
    motive (records ++ [⟨run, thread, .looked token false⟩,
      ⟨run, thread, .reached armed.epoch registration token pending⟩]) (some armed)
  ignore : ∀ {records boundary?} run thread epoch outcome maker, motive records boundary? →
    (boundary?.all fun boundary =>
      !(decide (boundary.epoch = epoch) && boundary.isArmed)) = true →
      motive (records ++ [⟨run, thread, .attempted epoch outcome maker⟩]) boundary?
  accept : ∀ {records boundary after} run thread epoch outcome maker,
    motive records (some boundary) → boundary.Fits records →
      (boundary.complete epoch thread outcome = .parked after ∨
        ∃ pending, boundary.complete epoch thread outcome = .resumed after pending) →
      motive (records ++ [⟨run, thread, .attempted epoch outcome maker⟩,
        ⟨run, thread, .crossed epoch outcome⟩]) (some after)
  returned : ∀ {records boundary} run thread epoch, motive records (some boundary) →
    motive (records ++ [⟨run, thread, .returned epoch⟩]) (some (boundary.detach epoch).2)

namespace Upkeep

variable {motive : List (Record Memory) → Option (Boundary Memory) → Prop}

def Holds (motive : List (Record Memory) → Option (Boundary Memory) → Prop)
    (history : List (Record Memory)) (situation : Situation Memory) : Prop :=
  ∀ run, motive (recordsOf run history) (boundaryOf situation.runs run)

variable {history : List (Record Memory)} {situation after : Situation Memory}

/-- What happens to one run leaves what holds of all others as it is. -/
theorem Holds.change (holds : Holds motive history situation) (run : Nat) {thread : Nat}
    (happenings : List (Happening Memory))
    (elsewhere : ∀ other, run ≠ other →
      boundaryOf after.runs other = boundaryOf situation.runs other)
    (own : motive (recordsOf run history ++ happenings.map (Record.mk run thread))
      (boundaryOf after.runs run)) :
    Holds motive (history ++ recorded thread (happenings.map fun happening => (run, happening)))
      after := by
  intro other
  rw [recordsOf_append]
  by_cases same : run = other
  · subst same
    rw [recordsOf_recorded]
    exact own
  · rw [recordsOf_recorded_other same, List.append_nil, elsewhere other same]
    exact holds other

theorem Holds.withBoundary (holds : Holds motive history situation) (run : Nat) {thread : Nat}
    (happenings : List (Happening Memory)) {boundary left : Boundary Memory}
    (found : boundaryOf situation.runs run = some boundary)
    (runs : after.runs = Trampoline.withBoundary situation.runs run left)
    (own : motive (recordsOf run history) (some boundary) →
      motive (recordsOf run history ++ happenings.map (Record.mk run thread)) (some left)) :
    Holds motive (history ++ recorded thread (happenings.map fun happening => (run, happening)))
      after := by
  obtain ⟨entry, located, _⟩ := entry_of_boundaryOf found
  refine holds.change run happenings ?_ ?_
  · rw [runs]
    exact fun other different => boundaryOf_elsewhere .withBoundary different
  · rw [runs, boundaryOf_withBoundary ⟨entry, located⟩]
    exact own (found ▸ holds run)

theorem Holds.begin (upkeep : Upkeep motive) (holds : Holds motive history situation)
    {receiver : Receiver Memory} {thread : Nat} {plan : Plan Memory}
    {pending : Stack (Frame Memory)} {token : Token}
    (runs : after.runs = situation.runs.push { receiver }) :
    Holds motive (history ++ recorded thread
      [(situation.runs.size, .started plan pending token receiver)]) after := by
  apply holds.change situation.runs.size [.started plan pending token receiver]
  · intro other different
    simp [runs, boundaryOf, Array.getElem?_push, Ne.symm different]
  · have unborn := holds situation.runs.size
    have missing : boundaryOf situation.runs situation.runs.size = none := by simp [boundaryOf]
    have fresh : boundaryOf after.runs situation.runs.size = none := by simp [runs, boundaryOf]
    rw [missing] at unborn
    rw [fresh]
    exact upkeep.silent unborn (by simp [Record.isSilent]) (.inl rfl)

theorem invariant (upkeep : Upkeep motive) : Invariant (Holds motive) where
  similar holds similar := by
    intro run
    rw [← similar.runs]
    exact holds run
  effect := by
    intro history situation thread happenings goal tracked ledger holds effect
    cases effect with
    | @loop run standing _ happenings _ _ _ _ runs _ _ leads inner retokened =>
        have single := (tracked run).eq_singleton
          (List.mem_append_left _ (by rw [loopStandings_cons_same]; exact .head _))
        apply holds.change run happenings
        · exact fun other different => boundaryOf_elsewhere (.of_retokened retokened) different
        · apply upkeep.silent (holds run)
          · intro record member
            obtain ⟨happening, here, rfl⟩ := List.mem_map.1 member
            exact Ledger.isSilent_of_isInner (List.all_eq_true.1 inner happening here)
          · exact steady_of_retokened retokened (standings_cons_eq_singleton single).2
    | @reach run registration pending token boundary _ _ _ _ runs _ armed =>
        have single := (tracked run).eq_singleton
          (List.mem_append_left _ (by rw [loopStandings_cons_same]; exact .head _))
        apply holds.change run
          [.looked token false, .reached boundary.epoch registration token pending]
        · exact fun other different => boundaryOf_elsewhere .withBoundary different
        · rw [boundaryOf_withBoundary (tracked.entry_of_singleton single), armed]
          exact upkeep.reach run thread registration token pending (holds run)
    | start direct => exact holds.begin upkeep rfl
    | launch => exact holds.begin upkeep rfl
    | lose =>
        apply holds.change 0 [] fun _ _ => rfl
        exact (List.append_nil (recordsOf 0 history)).symm ▸ holds 0
    | @ignore completer outcome maker _ _ _ _ _ runs _ refused takes =>
        apply holds.change completer.run [.attempted completer.epoch outcome maker] fun _ _ => rfl
        exact upkeep.ignore completer.run thread completer.epoch outcome maker
          (holds completer.run) refused
    | @park completer outcome maker boundary parked _ _ _ _ _ runs _ found accepted takes =>
        apply holds.withBoundary completer.run [.attempted completer.epoch outcome maker,
          .crossed completer.epoch outcome] found rfl
        intro before
        exact upkeep.accept completer.run thread completer.epoch outcome maker before
          ((ledger completer.run).fits boundary found) (.inl accepted)
    | @resume completer outcome maker boundary resumed pending _ _ _ _ _ runs _ found accepted
        takes =>
        apply holds.withBoundary completer.run [.attempted completer.epoch outcome maker,
          .crossed completer.epoch outcome] found rfl
        intro before
        exact upkeep.accept completer.run thread completer.epoch outcome maker before
          ((ledger completer.run).fits boundary found) (.inr ⟨pending, accepted⟩)
    | @wait opening boundary left _ _ _ _ runs _ found here waits =>
        apply holds.withBoundary opening.run [.returned opening.epoch] found rfl
        intro before
        have kept := upkeep.returned opening.run thread opening.epoch before
        rwa [waits] at kept
    | @takeUp opening boundary left outcome pending _ _ _ _ runs _ found here taken =>
        apply holds.withBoundary opening.run [.returned opening.epoch] found rfl
        intro before
        have kept := upkeep.returned opening.run thread opening.epoch before
        rwa [taken] at kept
    | @tell run outcome entry _ _ _ _ runs _ found untold =>
        apply holds.change run [.told outcome]
        · exact fun other different => boundaryOf_elsewhere .withOutcome different
        · have same : boundaryOf (withOutcome runs run outcome) run = boundaryOf runs run := by
            simp [boundaryOf, withOutcome, Array.getElem?_modify, found]
          rw [same]
          exact upkeep.silent (holds run) (by simp [Record.isSilent]) (.inl rfl)

/-- In every chronicle the relation holds of every run. -/
theorem chronicle (upkeep : Upkeep motive) (memory : Memory)
    (codes : List (Option String × Code Memory .unit)) (schedule : List Nat) :
    Holds motive ((Pool.opening memory codes).chronicle schedule).history
      ((Pool.opening memory codes).chronicle schedule).pool.situation := by
  refine (upkeep.invariant.chronicle memory codes ?_ schedule).kept.kept
  rw [Pool.situation_opening]
  exact fun _ => upkeep.nothing

end Upkeep

end Trampoline
