import Trampoline.Proofs.Nesting

/-!
Nothing happens to a run from elsewhere.

A run stands in one place.  While a loop has it open on one thread, no other thread can make anything
happen to it, and no completion of its boundaries would be accepted.  A call is the last thing that
happens in a move.
-/

namespace Trampoline

variable {Memory : Type} {last form : Form} {thread run : Nat}

section Exclusive

variable {history : List (Record Memory)} {situation after : Situation Memory}
  {happenings : List (Nat × Happening Memory)} {loops : List (Nat × Standing Memory)}
  {openings : List Opening} {telling : List (Completer × Outcome Value)}
  {standing : Standing Memory}

theorem Tracked.elsewhere (tracked : Tracked history (situation.beside loops openings telling))
    (there : standing ∈ loopStandings loops run) : situation.standings run = [] := by
  have accounts := tracked run
  have listed : (situation.beside loops openings telling).standings run =
      loopStandings situation.loops run ++ loopStandings loops run ++
        hostStandings situation.runs run := by
    rw [Situation.standings, Situation.beside, loopStandings, List.filterMap_append]
    rfl
  have member : standing ∈ (situation.beside loops openings telling).standings run := by
    rw [listed]
    exact List.mem_append_left _ (List.mem_append_right _ there)
  have lengths := congrArg List.length (accounts.eq_singleton member)
  have positive := List.length_pos_of_mem there
  rw [listed, List.length_append, List.length_append, List.length_singleton] at lengths
  rw [Situation.standings, List.append_eq_nil_iff, ← List.length_eq_zero_iff,
    ← List.length_eq_zero_iff]
  omega

theorem Effect.course_eq_nil (effect : Effect thread situation happenings after)
    (tracked : Tracked history (situation.beside loops openings telling))
    (there : standing ∈ loopStandings loops run) :
    course run (recorded thread happenings) = [] := by
  have nowhere := tracked.elsewhere there
  have noLoop {other : Nat} {place : Standing Memory} {rest : List (Nat × Standing Memory)}
      (listed : situation.loops = (other, place) :: rest) : other ≠ run := by
    rintro rfl
    rw [Situation.standings, listed, loopStandings_cons_same] at nowhere
    cases nowhere
  have noBoundary {other : Nat} {boundary : Boundary Memory} {place : Standing Memory}
      (found : boundaryOf situation.runs other = some boundary)
      (listed : boundary.standings = [place]) : other ≠ run := by
    rintro rfl
    have member : place ∈ situation.standings other := mem_standings_of_boundary found listed
    rw [nowhere] at member
    cases member
  have noStart : situation.runs.size ≠ run := by
    rintro rfl
    have accounts := tracked situation.runs.size
    have absent : receiverOf situation.runs situation.runs.size = none := by simp [receiverOf]
    rw [show receiverOf (situation.beside loops openings telling).runs situation.runs.size = none
      from absent] at accounts
    have member : standing ∈
        (situation.beside loops openings telling).standings situation.runs.size := by
      rw [Situation.standings, Situation.beside, loopStandings, List.filterMap_append]
      exact List.mem_append_left _ (List.mem_append_right _ there)
    rw [accounts.eq_nil.2] at member
    cases member
  cases effect with
  | loop leads inner kept => exact course_recorded_other (noLoop rfl) thread _
  | reach armed => exact course_recorded_other (noLoop rfl) thread [_, _]
  | tell found untold => exact course_recorded_other (noLoop rfl) thread [_]
  | start direct => exact course_recorded_other noStart thread [_]
  | launch => exact course_recorded_other noStart thread [_]
  | lose => rfl
  | @ignore completer outcome maker =>
      by_cases same : completer.run = run
      · subst same
        exact course_recorded completer.run thread [.attempted completer.epoch outcome maker]
      · exact course_recorded_other same thread [_]
  | park found accepted takes =>
      obtain ⟨pending, token, listed, _⟩ := Boundary.standings_of_parked accepted
      exact course_recorded_other (noBoundary found listed) thread [_, _]
  | resume found accepted takes =>
      obtain ⟨listed, _⟩ := Boundary.standings_of_resumed accepted
      exact course_recorded_other (noBoundary found listed) thread [_, _]
  | @wait opening | @takeUp opening =>
      by_cases same : opening.run = run
      · subst same
        exact course_recorded opening.run thread [.returned opening.epoch]
      · exact course_recorded_other same thread [_]

theorem Effects.course_eq_nil (effects : Effects thread situation happenings after)
    (holds : Kept (fun _ _ => True) history (situation.beside loops openings telling))
    (there : standing ∈ loopStandings loops run) :
    course run (recorded thread happenings) = [] := by
  induction effects generalizing history with
  | none => rfl
  | @more situation next goal happenings rest first _ inductionHypothesis =>
      have taken := holds.effects .nothing (.one (first.beside loops openings telling))
      rw [recorded, List.map_append, ← recorded, ← recorded, course_append,
        first.course_eq_nil holds.tracked there, inductionHypothesis taken, List.nil_append]

end Exclusive

theorem Tracked.lt_size_of_loop {history : List (Record Memory)} {situation : Situation Memory}
    (tracked : Tracked history situation) {standing : Standing Memory}
    (there : (run, standing) ∈ situation.loops) : run < situation.runs.size := by
  have listed : standing ∈ situation.standings run :=
    List.mem_append_left _ (List.mem_filterMap.2 ⟨_, there, if_pos rfl⟩)
  obtain ⟨entry, found⟩ := tracked.entry_of_singleton ((tracked run).eq_singleton listed)
  exact (Array.getElem?_eq_some_iff.1 found).1

/-- No completion of a boundary of a run with an open loop would be accepted. -/
theorem Tracked.refuses {history : List (Record Memory)} {situation : Situation Memory}
    (tracked : Tracked history situation) {standing : Standing Memory}
    (there : (run, standing) ∈ situation.loops) {host : Host Memory}
    (runs : host.runs = situation.runs) (epoch : Nat) : host.accepts ⟨run, epoch⟩ = false := by
  have listed : standing ∈ loopStandings situation.loops run :=
    List.mem_filterMap.2 ⟨_, there, if_pos rfl⟩
  have single := (tracked run).eq_singleton (List.mem_append_left _ listed)
  have nowhere : hostStandings situation.runs run = [] := by
    have lengths := congrArg List.length single
    have positive := List.length_pos_of_mem listed
    rw [Situation.standings, List.length_append, List.length_singleton] at lengths
    exact List.length_eq_zero_iff.1 (by omega)
  unfold Host.accepts
  cases found : host.boundary? run with
  | none => rfl
  | some boundary =>
      have located : boundaryOf situation.runs run = some boundary := runs ▸ found
      have idle := idle_of_hostStandings nowhere located
      simp [Boundary.isArmed, idle]

def Happening.isCalled : Happening Memory → Bool
  | .called _ _ => true
  | _ => false

theorem Loop.pairwise_note {loop : Loop Memory form} {happenings : Nat → List (Happening Memory)}
    (last : ∀ run, (happenings run).Pairwise fun happening _ => happening.isCalled = false) :
    (loop.note happenings).Pairwise fun noted _ => noted.2.isCalled = false := by
  unfold note
  split
  · exact List.pairwise_map.2 (last _)
  · exact .nil

theorem Caller.pairwise_note {rest : Form} {caller : Caller Memory form rest}
    {happenings : Nat → List (Happening Memory)}
    (last : ∀ run, (happenings run).Pairwise fun happening _ => happening.isCalled = false) :
    (caller.note happenings).Pairwise fun noted _ => noted.2.isCalled = false := by
  unfold note
  split <;> first | exact Loop.pairwise_note last | exact .nil

/-- A call is the last thing that happens in a move. -/
theorem Focus.pairwise_happenings (focus : Focus Memory last) (host : Host Memory) :
    (focus.happenings host).Pairwise fun noted _ => noted.2.isCalled = false := by
  cases focus with
  | iterate loop plan callers =>
      refine Loop.pairwise_note fun run => ?_
      split
      · exact List.pairwise_singleton ..
      · cases plan <;> simp [Plan.happenings, Happening.isCalled]
  | feed loop result callers =>
      refine Loop.pairwise_note fun run => ?_
      cases (Loop.frameFor loop.pending result).1.bind (·.call? result loop.token) with
      | none => exact .nil
      | some call => exact List.pairwise_singleton ..
  | code code callers =>
      unfold happenings
      split <;> try contradiction
      · unfold Caller.answerHappenings
        split
        · exact List.pairwise_singleton ..
        · exact List.pairwise_singleton ..
        · exact Caller.pairwise_note fun _ => List.pairwise_singleton ..
      · exact .nil
  | unwind payload callers =>
      cases callers with
      | bottom => exact .nil
      | push caller callers =>
          rw [happenings]
          unfold Caller.panicHappenings
          split
          · exact Loop.pairwise_note fun _ => by simp [Happening.isCalled]
          · exact Loop.pairwise_note fun _ => by simp [Happening.isCalled]
          · exact Caller.pairwise_note fun _ => List.pairwise_singleton ..
  | complete completer outcome callers =>
      rw [happenings]
      split <;> simp [Happening.isCalled]
  | finish run outcome callers =>
      rw [happenings]
      split <;> simp
  | halted ending => exact .nil

theorem mem_course_recorded {happening : Happening Memory}
    {happenings : List (Nat × Happening Memory)}
    (member : happening ∈ course run (recorded thread happenings)) :
    (run, happening) ∈ happenings := by
  have listed : happening ∈ course run ([] ++ recorded thread happenings) := member
  rcases mem_course_append listed with earlier | now
  · cases earlier
  · exact now

theorem course_startHappenings {runs : Nat} {after : Machine Memory last} (older : run < runs) :
    course run (recorded thread (Machine.startHappenings runs after)) = [] := by
  unfold Machine.startHappenings
  split
  · exact course_recorded_other (Nat.ne_of_gt older) thread [_]
  · rfl

namespace Machine

variable {machine : Machine Memory last}

theorem course_records (nothing : course run (recorded machine.host.thread.id
      (startHappenings machine.host.runs.size machine.next)) = []) :
    course run machine.records =
      course run (recorded machine.host.thread.id (machine.focus.happenings machine.host)) := by
  rw [records, happenings, recorded, List.map_append, ← recorded, ← recorded, course_append,
    nothing, List.append_nil]

theorem called_last {before after : List (Happening Memory)} {call : Call Memory} {token : Token}
    (nothing : startHappenings machine.host.runs.size machine.next = [])
    (listed : course run machine.records = before ++ .called call token :: after) : after = [] := by
  have ordered := machine.focus.pairwise_happenings machine.host
  have listedOrdered : (course run machine.records).Pairwise
      fun happening _ => happening.isCalled = false := by
    rw [course_records (by rw [nothing]; rfl), course, recorded]
    refine List.pairwise_filterMap.2 (List.pairwise_map.2 (ordered.imp ?_))
    rintro ⟨one, happening⟩ other quiet shown here _ _
    dsimp only at here
    split at here
    · cases here
      exact quiet
    · cases here
  rw [listed] at listedOrdered
  cases after with
  | nil => rfl
  | cons happening after =>
      have quiet := (List.pairwise_cons.1 (List.pairwise_append.1 listedOrdered).2.1).1 happening
        (.head _)
      cases quiet

end Machine

namespace Chronicle

variable {chronicle : Chronicle Memory}

theorem older_of_course {happening : Happening Memory}
    (kept : chronicle.Kept fun _ _ => True)
    (member : happening ∈ course run chronicle.history) : run < chronicle.pool.host.runs.size :=
  kept.kept.tracked.lt_size_of_mem member

/-- Only the worker that has the loop of a run open can make anything happen to the run. -/
theorem course_records_eq_nil (kept : chronicle.Kept fun _ _ => True)
    {before rest : List (Worker Memory)} {worker other : Worker Memory} {standing : Standing Memory}
    (workers : chronicle.pool.workers = before ++ worker :: rest) (here : other ∈ before ++ rest)
    (loops : (run, standing) ∈ other.focus.loops) :
    course run (worker.machine chronicle.pool.host).records = [] := by
  have effects := kept.effects_worker .nothing workers
  obtain ⟨history, ⟨all, host⟩⟩ := chronicle
  obtain rfl : all = before ++ worker :: rest := workers
  have holds := kept.kept.of_similar .nothing (Pool.similar_beside before rest worker host)
  have there : standing ∈
      loopStandings ((before ++ rest).flatMap fun worker => worker.focus.loops) run :=
    List.mem_filterMap.2 ⟨_, List.mem_flatMap.2 ⟨other, here, loops⟩, if_pos rfl⟩
  exact effects.course_eq_nil holds there

theorem loop_unique (kept : chronicle.Kept fun _ _ => True)
    {before after : List (Nat × Standing Memory)} {standing other : Standing Memory}
    (listed : chronicle.pool.situation.loops = before ++ (run, standing) :: after) :
    (run, other) ∉ after := by
  intro again
  have member : standing ∈ chronicle.pool.situation.standings run := by
    refine List.mem_append_left _ (List.mem_filterMap.2 ⟨(run, standing), ?_, if_pos rfl⟩)
    rw [listed]
    exact List.mem_append_right _ (.head _)
  have lengths := congrArg List.length ((kept.kept.tracked run).eq_singleton member)
  have positive : 0 < (loopStandings after run).length :=
    List.length_pos_of_mem (List.mem_filterMap.2 ⟨_, again, if_pos rfl⟩)
  rw [Situation.standings, listed, loopStandings, List.filterMap_append,
    ← loopStandings, ← loopStandings, loopStandings_cons_same] at lengths
  simp only [List.length_append, List.length_cons, List.length_nil] at lengths
  omega

end Chronicle

end Trampoline
