import Trampoline.Proofs.Situation

/-!
Every run stands at one place, and its history leads there.

A run stands where its open loop is, or at its outcome, or at the boundary that is armed or parked
for it.  The invariant is that these places never add up to more than one, and that what happened
to a run is a course of steps from its start to that place.
-/

namespace Trampoline

variable {Memory : Type}

/-- The happenings that are steps of a run; attempts and returns come from elsewhere. -/
def Happening.isStep : Happening Memory → Bool
  | .attempted _ _ _ | .returned _ => false
  | _ => true

def course (run : Nat) (history : List (Record Memory)) : List (Happening Memory) :=
  history.filterMap fun record =>
    if record.run = run ∧ record.happening.isStep = true then some record.happening else none

def Boundary.standings (boundary : Boundary Memory) : List (Standing Memory) :=
  match boundary.phase with
  | .idle => []
  | .registering _ pending | .waiting pending =>
      [.suspended boundary.epoch pending.toList boundary.token]
  | .parked pending outcome => [.after outcome pending.toList boundary.token]

def Run.standings (entry : Run Memory) : List (Standing Memory) :=
  entry.outcome.toList.map .ended ++ entry.boundary.toList.flatMap Boundary.standings

def hostStandings (runs : Array (Run Memory)) (run : Nat) : List (Standing Memory) :=
  runs[run]?.toList.flatMap Run.standings

def loopStandings (loops : List (Nat × Standing Memory)) (run : Nat) : List (Standing Memory) :=
  loops.filterMap fun loop => if loop.1 = run then some loop.2 else none

def Situation.standings (situation : Situation Memory) (run : Nat) : List (Standing Memory) :=
  loopStandings situation.loops run ++ hostStandings situation.runs run

/-- Who is told the outcome of a run. -/
def receiverOf (runs : Array (Run Memory)) (run : Nat) : Option (Receiver Memory) :=
  runs[run]?.map Run.receiver

/-- What a run has done leads to the place where it stands. -/
inductive Accounts :
    Option (Receiver Memory) → List (Happening Memory) → List (Standing Memory) → Prop where
  | unborn : Accounts none [] []
  | born {plan pending token receiver happenings standing}
      (leads : Standing.Leads (.iterating plan pending.toList token) happenings standing) :
      Accounts (some receiver) (.started plan pending token receiver :: happenings) [standing]

/-- Every run stands at one place, to which its course leads. -/
def Tracked (history : List (Record Memory)) (situation : Situation Memory) : Prop :=
  ∀ run, Accounts (receiverOf situation.runs run) (course run history) (situation.standings run)

structure OnlyChanges (run : Nat) (runs after : Array (Run Memory)) : Prop where
  elsewhere : ∀ other, run ≠ other → after[other]? = runs[other]?
  receiver : receiverOf after run = receiverOf runs run

namespace OnlyChanges

variable {run : Nat} {runs after : Array (Run Memory)}

theorem refl : OnlyChanges run runs runs := ⟨fun _ _ => rfl, rfl⟩

theorem modify {change : Run Memory → Run Memory}
    (kept : ∀ entry, (change entry).receiver = entry.receiver) :
    OnlyChanges run runs (runs.modify run change) where
  elsewhere other different := by simp [Array.getElem?_modify, different]
  receiver := by
    simp only [receiverOf, Array.getElem?_modify, if_true]
    cases runs[run]? <;> simp [kept]

theorem withBoundary {boundary : Boundary Memory} :
    OnlyChanges run runs (withBoundary runs run boundary) :=
  modify fun _ => rfl

theorem withOutcome {outcome : Outcome Value} :
    OnlyChanges run runs (withOutcome runs run outcome) :=
  modify fun _ => rfl

theorem of_retokened (retokened : Retokened run runs after) : OnlyChanges run runs after := by
  rcases retokened with rfl | ⟨token, rfl⟩
  · exact refl
  · exact modify fun _ => rfl

theorem receiverOf_eq (changes : OnlyChanges run runs after) (other : Nat) :
    receiverOf after other = receiverOf runs other := by
  by_cases same : run = other
  · subst same
    exact changes.receiver
  · rw [receiverOf, changes.elsewhere other same, receiverOf]

theorem hostStandings_eq (changes : OnlyChanges run runs after) {other : Nat}
    (different : run ≠ other) : hostStandings after other = hostStandings runs other := by
  rw [hostStandings, changes.elsewhere other different, hostStandings]

end OnlyChanges

section Course

variable {run other thread : Nat} {history : List (Record Memory)}

theorem course_append (run : Nat) (history more : List (Record Memory)) :
    course run (history ++ more) = course run history ++ course run more :=
  List.filterMap_append ..

theorem course_recorded (run thread : Nat) (happenings : List (Happening Memory)) :
    course run (recorded thread (happenings.map fun happening => (run, happening))) =
      happenings.filter (·.isStep) := by
  simp only [course, recorded, List.map_map, List.filterMap_map]
  rw [← List.filterMap_eq_filter]
  apply congrFun
  apply congrArg
  funext happening
  cases step : happening.isStep <;> simp [Option.guard, step]

theorem course_recorded_other (different : run ≠ other) (thread : Nat)
    (happenings : List (Happening Memory)) :
    course other (recorded thread (happenings.map fun happening => (run, happening))) = [] := by
  simp [course, recorded, different]

end Course

section Standings

variable {runs : Array (Run Memory)} {run other : Nat} {loops : List (Nat × Standing Memory)}
  {standing : Standing Memory}

theorem loopStandings_cons_same :
    loopStandings ((run, standing) :: loops) run = standing :: loopStandings loops run := by
  simp [loopStandings]

theorem loopStandings_cons_other (different : run ≠ other) :
    loopStandings ((run, standing) :: loops) other = loopStandings loops other := by
  simp [loopStandings, different]

theorem hostStandings_of_some {entry : Run Memory} (found : runs[run]? = some entry) :
    hostStandings runs run = entry.standings := by
  simp [hostStandings, found]

theorem hostStandings_modify {entry : Run Memory} (change : Run Memory → Run Memory)
    (found : runs[run]? = some entry) :
    hostStandings (runs.modify run change) run = (change entry).standings := by
  simp [hostStandings, Array.getElem?_modify, found]

theorem hostStandings_retokened {after : Array (Run Memory)} (retokened : Retokened run runs after)
    (nothing : hostStandings runs run = []) : hostStandings after run = [] := by
  rcases retokened with rfl | ⟨token, rfl⟩
  · exact nothing
  · cases found : runs[run]? with
    | none => simp [hostStandings, Array.getElem?_modify, found]
    | some entry =>
        rw [hostStandings_of_some found, Run.standings, List.append_eq_nil_iff] at nothing
        obtain ⟨noOutcome, noBoundary⟩ := nothing
        rw [hostStandings_modify _ found, Run.standings, noOutcome, List.nil_append]
        cases reached : entry.boundary with
        | none => rfl
        | some boundary =>
            rw [reached, Option.toList_some, List.flatMap_singleton] at noBoundary
            rw [Option.map_some, Option.toList_some, List.flatMap_singleton]
            revert noBoundary
            unfold Boundary.standings
            cases boundary.phase <;> simp

end Standings

namespace Accounts

variable {receiver? : Option (Receiver Memory)} {happenings more : List (Happening Memory)}
  {standings : List (Standing Memory)} {standing next : Standing Memory}

theorem eq_singleton (accounts : Accounts receiver? happenings standings)
    (member : standing ∈ standings) : standings = [standing] := by
  cases accounts with
  | unborn => cases member
  | born leads => rw [List.mem_singleton.1 member]

theorem eq_nil (accounts : Accounts none happenings standings) :
    happenings = [] ∧ standings = [] := by
  cases accounts
  exact ⟨rfl, rfl⟩

theorem receiver_eq_some (accounts : Accounts receiver? happenings [standing]) :
    ∃ receiver, receiver? = some receiver := by
  cases accounts with
  | born leads => exact ⟨_, rfl⟩

theorem progress (accounts : Accounts receiver? happenings [standing])
    (leads : Standing.Leads standing more next) :
    Accounts receiver? (happenings ++ more) [next] := by
  cases accounts with
  | born before => exact .born (before.trans leads)

end Accounts

namespace Tracked

variable {history : List (Record Memory)} {situation after : Situation Memory}

theorem progress (tracked : Tracked history situation) (run : Nat)
    (happenings : List (Happening Memory)) {thread : Nat} (standing next : Standing Memory)
    (here : standing ∈ situation.standings run)
    (leads : Standing.Leads standing (happenings.filter (·.isStep)) next)
    (changes : OnlyChanges run situation.runs after.runs)
    (loops : ∀ other, run ≠ other →
      loopStandings after.loops other = loopStandings situation.loops other)
    (goal : situation.standings run = [standing] → after.standings run = [next]) :
    Tracked (history ++ recorded thread (happenings.map fun happening => (run, happening)))
      after := by
  intro other
  have accounts := tracked other
  rw [changes.receiverOf_eq, course_append]
  by_cases same : run = other
  · subst same
    have single := accounts.eq_singleton here
    rw [course_recorded, goal single]
    rw [single] at accounts
    exact accounts.progress leads
  · rw [course_recorded_other same, List.append_nil, Situation.standings, loops other same,
      changes.hostStandings_eq same]
    exact accounts

theorem stay (tracked : Tracked history situation) (run : Nat)
    (happenings : List (Happening Memory)) {thread : Nat}
    (noStep : happenings.filter (·.isStep) = [])
    (changes : OnlyChanges run situation.runs after.runs)
    (loops : after.loops = situation.loops)
    (standings : hostStandings after.runs run = hostStandings situation.runs run) :
    Tracked (history ++ recorded thread (happenings.map fun happening => (run, happening)))
      after := by
  intro other
  have accounts := tracked other
  rw [changes.receiverOf_eq, course_append, Situation.standings, loops]
  by_cases same : run = other
  · subst same
    rw [course_recorded, noStep, List.append_nil, standings]
    exact accounts
  · rw [course_recorded_other same, List.append_nil, changes.hostStandings_eq same]
    exact accounts

theorem beginning (tracked : Tracked history situation) {thread : Nat} {plan : Plan Memory}
    {pending : Stack (Frame Memory)} {token : Token} {receiver : Receiver Memory}
    (loops : after.loops =
      (situation.runs.size, .iterating plan pending.toList token) :: situation.loops)
    (runs : after.runs = situation.runs.push { receiver }) :
    Tracked (history ++
      recorded thread [(situation.runs.size, .started plan pending token receiver)]) after := by
  intro other
  have accounts := tracked other
  rw [course_append]
  by_cases same : situation.runs.size = other
  · subst same
    have absent : situation.runs[situation.runs.size]? = none := by simp
    rw [receiverOf, absent] at accounts
    obtain ⟨noCourse, noStanding⟩ := accounts.eq_nil
    obtain ⟨noLoop, _⟩ := List.append_eq_nil_iff.1 noStanding
    have standings : after.standings situation.runs.size =
        [.iterating plan pending.toList token] := by
      rw [Situation.standings, loops, runs, loopStandings_cons_same, noLoop]
      simp [hostStandings, Run.standings]
    have begun : receiverOf after.runs situation.runs.size = some receiver := by
      simp [receiverOf, runs]
    rw [begun, standings, noCourse]
    have here : course situation.runs.size
        (recorded thread [(situation.runs.size, .started plan pending token receiver)]) =
          [.started plan pending token receiver] :=
      course_recorded situation.runs.size thread [.started plan pending token receiver]
    rw [here]
    exact .born .refl
  · have elsewhere : after.runs[other]? = situation.runs[other]? := by
      simp [runs, Array.getElem?_push, Ne.symm same]
    have here : course other
        (recorded thread [(situation.runs.size, .started plan pending token receiver)]) = [] :=
      course_recorded_other same thread [.started plan pending token receiver]
    rw [here, List.append_nil, receiverOf, elsewhere, Situation.standings, loops,
      loopStandings_cons_other same, hostStandings, elsewhere]
    exact accounts

theorem entry_of_singleton (tracked : Tracked history situation) {run : Nat}
    {standing : Standing Memory} (alone : situation.standings run = [standing]) :
    ∃ entry, situation.runs[run]? = some entry := by
  have accounts := tracked run
  rw [alone] at accounts
  obtain ⟨receiver, found⟩ := accounts.receiver_eq_some
  obtain ⟨entry, located, _⟩ := Option.map_eq_some_iff.1 found
  exact ⟨entry, located⟩

end Tracked

theorem standings_cons_eq_singleton {loops : List (Nat × Standing Memory)}
    {openings : List Opening} {due : List (Due Memory)}
    {telling : List (Completer × Outcome Value)} {runs : Array (Run Memory)} {warnings : List Nat}
    {run : Nat}
    {standing : Standing Memory}
    (alone : Situation.standings ⟨(run, standing) :: loops, openings, due, telling, runs, warnings⟩ run =
      [standing]) :
    loopStandings loops run = [] ∧ hostStandings runs run = [] := by
  simpa [Situation.standings, loopStandings_cons_same] using alone

theorem entry_of_boundaryOf {runs : Array (Run Memory)} {run : Nat} {boundary : Boundary Memory}
    (found : boundaryOf runs run = some boundary) :
    ∃ entry, runs[run]? = some entry ∧ entry.boundary = some boundary :=
  Option.bind_eq_some_iff.1 found

theorem mem_standings_of_boundary {loops : List (Nat × Standing Memory)}
    {openings : List Opening} {due : List (Due Memory)}
    {telling : List (Completer × Outcome Value)} {runs : Array (Run Memory)} {warnings : List Nat}
    {run : Nat}
    {boundary : Boundary Memory} {standing : Standing Memory}
    (found : boundaryOf runs run = some boundary) (listed : boundary.standings = [standing]) :
    standing ∈ Situation.standings ⟨loops, openings, due, telling, runs, warnings⟩ run := by
  obtain ⟨entry, located, reached⟩ := entry_of_boundaryOf found
  simp [Situation.standings, hostStandings_of_some located, Run.standings, reached, listed]

/-- Where the boundary of a run holds it, the run stands nowhere else, and what comes of the
boundary says where the run stands. -/
theorem standings_boundary_eq_singleton {loops : List (Nat × Standing Memory)}
    {openings : List Opening} {due : List (Due Memory)}
    {telling : List (Completer × Outcome Value)} {runs : Array (Run Memory)} {warnings : List Nat}
    {run : Nat}
    {boundary : Boundary Memory} {standing : Standing Memory}
    (found : boundaryOf runs run = some boundary) (listed : boundary.standings = [standing])
    (alone : Situation.standings ⟨loops, openings, due, telling, runs, warnings⟩ run = [standing])
    (after : Boundary Memory) :
    loopStandings loops run = [] ∧
      hostStandings (withBoundary runs run after) run = after.standings := by
  obtain ⟨entry, located, reached⟩ := entry_of_boundaryOf found
  have none : loopStandings loops run = [] ∧
      (entry.outcome.toList.map .ended : List (Standing Memory)) = [] := by
    have lengths := congrArg List.length alone
    simp only [Situation.standings, hostStandings_of_some located, Run.standings, reached, listed,
      Option.toList_some, List.flatMap_singleton, List.length_append, List.length_singleton]
      at lengths
    exact ⟨List.length_eq_zero_iff.1 (by omega), List.length_eq_zero_iff.1 (by omega)⟩
  refine ⟨none.1, ?_⟩
  rw [withBoundary, hostStandings_modify _ located, Run.standings, none.2]
  exact List.append_nil _

/-- The registration that takes up what is parked goes on under the token of the boundary. -/
def Situation.Faithful (situation : Situation Memory) : Prop :=
  ∀ opening ∈ situation.openings, ∀ boundary outcome pending,
    boundaryOf situation.runs opening.run = some boundary → boundary.epoch = opening.epoch →
      boundary.phase = .parked pending outcome → boundary.token = opening.token

namespace Boundary

variable {boundary after : Boundary Memory} {epoch thread : Nat} {outcome : Outcome Value}
  {pending : Stack (Frame Memory)}

theorem standings_of_parked (accepted : boundary.complete epoch thread outcome = .parked after) :
    ∃ pending token, boundary.standings = [.suspended epoch pending token] ∧
      after.standings = [.after outcome pending token] := by
  obtain ⟨rfl, pending, phase, rfl⟩ := complete_eq_parked_iff.1 accepted
  refine ⟨pending.toList, boundary.token, ?_, rfl⟩
  rw [standings, phase]

theorem standings_of_resumed
    (accepted : boundary.complete epoch thread outcome = .resumed after pending) :
    boundary.standings = [.suspended epoch pending.toList after.token] ∧ after.standings = [] := by
  obtain ⟨rfl, armed, rfl⟩ := complete_eq_resumed_iff.1 accepted
  refine ⟨?_, rfl⟩
  rcases armed with ⟨registrar, phase, _⟩ | phase <;> rw [standings, phase]

theorem standings_of_waits (waits : boundary.detach epoch = (none, after)) :
    after.standings = boundary.standings := by
  rcases detach_eq_none waits with ⟨thread, pending, _, phase, rfl⟩ | ⟨rfl, _⟩
  · simp only [standings, phase]
  · rfl

end Boundary

namespace Standing

variable {standing next : Standing Memory} {happenings : List (Happening Memory)}

theorem Step.filter_isStep (step : Step standing happenings next) :
    happenings.filter (·.isStep) = happenings := by
  cases step <;> rfl

theorem Leads.filter_isStep (leads : Leads standing happenings next) :
    happenings.filter (·.isStep) = happenings := by
  obtain ⟨count, path⟩ := leads
  induction path with
  | done => rfl
  | step taken _ inductionHypothesis =>
      rw [List.filter_append, taken.filter_isStep, inductionHypothesis]

end Standing

namespace Tracked

variable {history : List (Record Memory)} {situation after : Situation Memory} {thread : Nat}
  {happenings : List (Nat × Happening Memory)}

theorem effect (tracked : Tracked history situation) (faithful : situation.Faithful)
    (effect : Effect thread situation happenings after) :
    Tracked (history ++ recorded thread happenings) after := by
  cases effect with
  | @loop run standing next happenings loops openings due telling runs kept warnings leads inner retokened =>
      refine tracked.progress run happenings standing next ?_ ?_ (.of_retokened retokened) ?_ ?_
      · simp [Situation.standings, loopStandings_cons_same]
      · rw [leads.filter_isStep]
        exact leads
      · intro other different
        rw [loopStandings_cons_other different, loopStandings_cons_other different]
      · intro alone
        obtain ⟨noLoop, noHost⟩ := standings_cons_eq_singleton alone
        rw [Situation.standings, loopStandings_cons_same, noLoop,
          hostStandings_retokened retokened noHost]
        rfl
  | @reach run registration pending token boundary loops openings due telling runs warnings armed =>
      refine tracked.progress run [.looked token false,
          .reached boundary.epoch registration token pending]
        (.iterating (.async registration) pending.toList token)
        (.suspended boundary.epoch pending.toList token) ?_ (.one .reach) .withBoundary ?_ ?_
      · simp [Situation.standings, loopStandings_cons_same]
      · intro other different
        rw [loopStandings_cons_other different]
      · intro alone
        obtain ⟨noLoop, noHost⟩ := standings_cons_eq_singleton alone
        obtain ⟨entry, found⟩ := tracked.entry_of_singleton alone
        rw [hostStandings_of_some found, Run.standings, List.append_eq_nil_iff] at noHost
        rw [Situation.standings, noLoop, withBoundary, hostStandings_modify _ found, Run.standings,
          noHost.1, armed]
        rfl
  | start direct => exact tracked.beginning rfl rfl
  | launch => exact tracked.beginning rfl rfl
  | lose => exact tracked.stay 0 [] rfl .refl rfl rfl
  | @ignore completer outcome maker _ _ _ _ _ _ _ refused takes =>
      exact tracked.stay completer.run [.attempted completer.epoch outcome maker] rfl .refl rfl rfl
  | @park completer outcome maker boundary parked loops openings due telling rest runs warnings found
      accepted takes =>
      obtain ⟨pending, token, listed, left⟩ := Boundary.standings_of_parked accepted
      refine tracked.progress completer.run [.attempted completer.epoch outcome maker,
          .crossed completer.epoch outcome] (.suspended completer.epoch pending token)
        (.after outcome pending token) ?_ (.one .cross) .withBoundary (fun _ _ => rfl) ?_
      · exact mem_standings_of_boundary found listed
      · intro alone
        obtain ⟨noLoop, held⟩ := standings_boundary_eq_singleton found listed alone parked
        rw [Situation.standings, noLoop, held, left]
        rfl
  | @resume completer outcome maker boundary resumed pending loops openings due telling rest runs warnings
      found accepted takes =>
      obtain ⟨listed, left⟩ := Boundary.standings_of_resumed accepted
      refine tracked.progress completer.run [.attempted completer.epoch outcome maker,
          .crossed completer.epoch outcome]
        (.suspended completer.epoch pending.toList resumed.token)
        (.after outcome pending.toList resumed.token) ?_ (.one .cross) .withBoundary ?_ ?_
      · exact mem_standings_of_boundary found listed
      · intro other different
        rw [loopStandings_cons_other different]
      · intro alone
        obtain ⟨noLoop, held⟩ := standings_boundary_eq_singleton found listed alone resumed
        rw [Situation.standings, loopStandings_cons_same, noLoop, held, left]
        rfl
  | @wait opening boundary left loops openings due telling runs warnings found here waits =>
      obtain ⟨entry, located, reached⟩ := entry_of_boundaryOf found
      refine tracked.stay opening.run [.returned opening.epoch] rfl .withBoundary rfl ?_
      rw [withBoundary, hostStandings_modify _ located, hostStandings_of_some located]
      simp [Run.standings, reached, Boundary.standings_of_waits waits]
  | @takeUp opening boundary left outcome pending loops openings due telling runs warnings found here
      taken =>
      obtain ⟨same, parked, rfl⟩ := Boundary.detach_eq_some_iff.1 taken
      have token : boundary.token = opening.token :=
        faithful opening (.head _) boundary outcome pending found same parked
      have listed : boundary.standings = [.after outcome pending.toList opening.token] := by
        rw [Boundary.standings, parked, token]
      refine tracked.progress opening.run [.returned opening.epoch]
        (.after outcome pending.toList opening.token)
        (.after outcome pending.toList opening.token) ?_ .refl .withBoundary ?_ ?_
      · exact mem_standings_of_boundary found listed
      · intro other different
        rw [loopStandings_cons_other different]
      · intro alone
        obtain ⟨noLoop, held⟩ := standings_boundary_eq_singleton found listed alone
          { boundary with phase := .idle }
        rw [Situation.standings, loopStandings_cons_same, noLoop, held]
        rfl
  | @tell run outcome entry loops openings due telling runs warnings found untold =>
      refine tracked.progress run [.told outcome] (.ending outcome) (.ended outcome) ?_ (.one .tell)
        .withOutcome ?_ ?_
      · simp [Situation.standings, loopStandings_cons_same]
      · intro other different
        rw [loopStandings_cons_other different]
      · intro alone
        obtain ⟨noLoop, noHost⟩ := standings_cons_eq_singleton alone
        rw [hostStandings_of_some found, Run.standings, List.append_eq_nil_iff] at noHost
        rw [Situation.standings, noLoop, withOutcome, hostStandings_modify _ found, Run.standings,
          noHost.2]
        rfl

end Tracked

end Trampoline
