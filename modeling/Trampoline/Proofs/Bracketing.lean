import Trampoline.Proofs.Cancellation
import Trampoline.Proofs.Shielding

/-!
Scoped switches are well bracketed.

A scoped switch is entered when `modify` names another token, and left when a result comes to it;
then `restore` is called, and never otherwise.  Whatever happens in between, the switch that is left
is the innermost of those that are open: boundaries save the open ones with the other frames, and
nested runs have their own.  Only a run that is canceled leaves switches open.
-/

namespace Trampoline

variable {Memory : Type}

/-- A scoped switch that is open: the token before it, and what names the token to go on with. -/
structure Scope (Memory : Type) where
  old : Token
  restore : Result → Token → Token → Code Memory .token

inductive Bracket (Memory : Type) where
  | entered (scope : Scope Memory)
  | left (scope : Scope Memory) (result : Result) (current : Token)

def Bracket.isLeft : Bracket Memory → Bool
  | .entered _ => false
  | .left _ _ _ => true

/-- The switch that a call of `restore` leaves. -/
def Happening.leaving? : Happening Memory → Option (Bracket Memory)
  | .called (.restoring back result old current) _ => some (.left ⟨old, back⟩ result current)
  | _ => none

/-- Whether a run finds out that it is canceled, by itself or from a nested run. -/
def Happening.findsCanceled : Happening Memory → Bool
  | .looked _ found => found
  | .crossed _ outcome => outcome.isCanceled
  | _ => false

def Frame.scopes : List (Frame Memory) → List (Scope Memory)
  | [] => []
  | .restore old back :: pending => ⟨old, back⟩ :: scopes pending
  | _ :: pending => scopes pending

/-- Brackets that lead from some open switches to others: the innermost is always left first. -/
inductive Matched : List (Scope Memory) → List (Bracket Memory) → List (Scope Memory) → Prop where
  | done {scopes} : Matched scopes [] scopes
  | entered {scope scopes brackets goal} (rest : Matched (scope :: scopes) brackets goal) :
      Matched scopes (.entered scope :: brackets) goal
  | left {scope result current scopes brackets goal} (rest : Matched scopes brackets goal) :
      Matched (scope :: scopes) (.left scope result current :: brackets) goal

namespace Matched

variable {scopes between goal : List (Scope Memory)} {brackets rest : List (Bracket Memory)}

theorem trans (first : Matched scopes brackets between) (second : Matched between rest goal) :
    Matched scopes (brackets ++ rest) goal := by
  induction first with
  | done => exact second
  | entered _ inductionHypothesis => exact .entered (inductionHypothesis second)
  | left _ inductionHypothesis => exact .left (inductionHypothesis second)

end Matched

namespace Standing

def frames : Standing Memory → List (Frame Memory)
  | .iterating _ pending _ | .feeding _ pending _ | .calling _ pending _
  | .suspended _ pending _ => pending
  | .ending _ | .ended _ => []

def scopes (standing : Standing Memory) : List (Scope Memory) :=
  Frame.scopes standing.frames

def isCanceled : Standing Memory → Bool
  | .ending outcome | .ended outcome => outcome.isCanceled
  | _ => false

/-- The scoped switch that a step enters or leaves, given what happens in it. -/
def bracket? : Standing Memory → List (Happening Memory) → Option (Bracket Memory)
  | .calling (.switching _ (some back)) _ token, [.answered (.token other)] =>
      if other = token then none else some (.entered ⟨token, back⟩)
  | .feeding result (.restore old back :: _) token, _ => some (.left ⟨old, back⟩ result token)
  | _, _ => none

/-- Some number of steps, with all that happens and the scoped switches that are entered and left. -/
inductive Trail : Standing Memory → List (Happening Memory) → List (Bracket Memory) →
    Standing Memory → Prop where
  | done {standing} : Trail standing [] [] standing
  | step {standing happenings next rest brackets goal} (taken : Step standing happenings next)
      (trail : Trail next rest brackets goal) :
      Trail standing (happenings ++ rest) ((standing.bracket? happenings).toList ++ brackets) goal

variable {standing next goal : Standing Memory} {happenings rest : List (Happening Memory)}
  {brackets : List (Bracket Memory)} {count : Nat}

theorem Path.exists_trail (path : Path count standing happenings goal) :
    ∃ brackets, Trail standing happenings brackets goal := by
  induction path with
  | done => exact ⟨[], .done⟩
  | step taken _ inductionHypothesis =>
      obtain ⟨brackets, trail⟩ := inductionHypothesis
      exact ⟨_, .step taken trail⟩

theorem Step.matched (step : Step standing happenings next) :
    (next.isCanceled = true ∧ standing.bracket? happenings = none) ∨
      Matched standing.scopes (standing.bracket? happenings).toList next.scopes := by
  cases step with
  | stop => exact .inl ⟨rfl, rfl⟩
  | @tell outcome => exact .inr .done
  | @conclude result => exact .inr .done
  | @cross pending token epoch outcome =>
      cases outcome with
      | canceled => exact .inl ⟨rfl, rfl⟩
      | completed | failed => exact .inr .done
  | descend sequencing =>
      rename_i plan frame source pending token
      cases plan <;> cases sequencing <;> exact .inr .done
  | skip refused =>
      rename_i frame result pending token
      cases frame <;> first | exact .inr .done | cases refused
  | meet taken =>
      rename_i frame result pending token call
      cases frame with
      | restore => exact .inr (.left .done)
      | _ => exact .inr .done
  | @sameToken source restore pending token =>
      have none : (calling (.switching source restore) pending token).bracket?
          [.answered (.token token)] = none := by
        cases restore <;> simp [bracket?]
      rw [none]
      exact .inr .done
  | @scopedToken source restore pending token other different =>
      have entered : (calling (.switching source (some restore)) pending token).bracket?
          [.answered (.token other)] = some (.entered ⟨token, restore⟩) := if_neg different
      rw [entered]
      exact .inr (.entered .done)
  | @panic site pending token panic raises =>
      have none : (calling site pending token).bracket? [.panicked panic] = none := by
        unfold bracket?
        split <;> simp_all
      rw [none]
      exact .inr .done
  | _ => exact .inr .done

/-- Code is asked to restore a token in a step that leaves a scoped switch, and only there. -/
theorem Step.leaving (step : Step standing happenings next) :
    happenings.filterMap Happening.leaving? =
      (standing.bracket? happenings).toList.filter Bracket.isLeft := by
  cases step with
  | descend sequencing => rfl
  | skip refused =>
      rename_i frame result pending token
      cases frame <;> first | rfl | cases refused
  | meet taken =>
      rename_i frame result pending token call
      cases frame <;> cases result <;> cases taken <;> rfl
  | @sameToken source restore pending token =>
      cases restore <;> simp [bracket?, Happening.leaving?]
  | @scopedToken source restore pending token other different =>
      simp [bracket?, Happening.leaving?, different, Bracket.isLeft]
  | @panic site pending token panic raises =>
      have none : (calling site pending token).bracket? [.panicked panic] = none := by
        unfold bracket?
        split <;> simp_all
      rw [none]
      rfl
  | _ => rfl

theorem Path.of_canceled (path : Path count standing happenings goal)
    (canceled : standing.isCanceled = true) :
    goal.isCanceled = true ∧ calls happenings = [] := by
  induction path with
  | done => exact ⟨canceled, rfl⟩
  | step taken _ inductionHypothesis =>
      cases taken with
      | tell => exact inductionHypothesis canceled
      | _ => cases canceled

theorem Trail.of_canceled (trail : Trail standing happenings brackets goal)
    (canceled : standing.isCanceled = true) : brackets = [] ∧ goal.isCanceled = true := by
  induction trail with
  | done => exact ⟨rfl, canceled⟩
  | step taken _ inductionHypothesis =>
      cases taken with
      | tell => exact inductionHypothesis canceled
      | _ => cases canceled

/-- Scoped switches are left in the opposite order of that in which they were entered, and what is
open where a run stands are those that it has not left. -/
theorem Trail.matched (trail : Trail standing happenings brackets goal) :
    ∃ scopes, Matched standing.scopes brackets scopes ∧
      (goal.isCanceled = false → scopes = goal.scopes) := by
  induction trail with
  | done => exact ⟨_, .done, fun _ => rfl⟩
  | @step standing happenings next rest brackets goal taken trail inductionHypothesis =>
      rcases taken.matched with ⟨canceled, none⟩ | matched
      · obtain ⟨rfl, stays⟩ := trail.of_canceled canceled
        rw [none]
        exact ⟨_, .done, fun live => absurd (stays.symm.trans live) (by decide)⟩
      · obtain ⟨scopes, later, same⟩ := inductionHypothesis
        exact ⟨scopes, matched.trans later, same⟩

theorem Trail.leaving (trail : Trail standing happenings brackets goal) :
    happenings.filterMap Happening.leaving? = brackets.filter Bracket.isLeft := by
  induction trail with
  | done => rfl
  | step taken _ inductionHypothesis =>
      rw [List.filterMap_append, List.filter_append, taken.leaving, inductionHypothesis]

theorem Step.of_findsCanceled (step : Step standing happenings next) {happening : Happening Memory}
    (member : happening ∈ happenings) (finds : happening.findsCanceled = true) :
    happenings = [happening] ∧ next.isCanceled = true := by
  cases step with
  | stop => exact ⟨by rw [List.mem_singleton.1 member], rfl⟩
  | @cross pending token epoch outcome =>
      cases List.mem_singleton.1 member
      cases outcome with
      | canceled => exact ⟨rfl, rfl⟩
      | completed | failed => cases finds
  | skip | conclude => cases member
  | suspend | delay | reach | «switch» | lookUp | suspendPanic | delayPanic =>
      rcases List.mem_pair.1 member with rfl | rfl <;> cases finds
  | _ =>
      cases List.mem_singleton.1 member
      cases finds

theorem Path.calls_of_findsCanceled (path : Path count standing happenings goal)
    {before : List (Happening Memory)} {happening : Happening Memory}
    (listed : happenings = before ++ happening :: rest)
    (finds : happening.findsCanceled = true) : calls rest = [] := by
  subst listed
  have leads : Leads standing (before ++ happening :: rest) goal := ⟨count, path⟩
  obtain ⟨next, canceled, _, path⟩ :=
    leads.beyond fun _ _ _ step member => step.of_findsCanceled member finds
  exact (path.of_canceled canceled).2

end Standing

section Scoped

variable (source : Plan Memory) (modify : Token → Code Memory .token)
  (back : Result → Token → Token → Code Memory .token) (below : List (Frame Memory)) (token : Token)

/-- What happens before `modify` has named a token. -/
def asking : List (Happening Memory) :=
  [.looked token false, .called (.switching modify token) token]

/-- What happens from when `modify` names another token to when the source has its result. -/
def within (other : Token) (region : List (Happening Memory)) : List (Happening Memory) :=
  asking modify token ++ .answered (.token other : Answer Memory .token) :: region

/-- What happens to a run that comes to a scoped switch, and where it stands then.  Up to its result
the source does what it does by itself, and `restore` is called with that before anything else. -/
inductive Scoped : List (Happening Memory) → Standing Memory → Prop where
  | before : Scoped [] (.iterating (.switch source modify (some back)) below token)
  | refused {rest goal} (leads : Standing.Leads (.ending .canceled) rest goal) :
      Scoped (.looked token true :: rest) goal
  | asked : Scoped (asking modify token) (.calling (.switching source (some back)) below token)
  | unasked {panic rest goal}
      (leads : Standing.Leads (.iterating (.raise (.panicked panic)) below token) rest goal) :
      Scoped (asking modify token ++ .panicked panic :: rest) goal
  /-- The active token was named, and there is nothing to restore. -/
  | unchanged {rest goal} (leads : Standing.Leads (.iterating source below token) rest goal) :
      Scoped (within modify token token rest) goal
  | inside {other region region' inner} (different : other ≠ token)
      (same : SameButFrames region region')
      (leads : Standing.Leads (.iterating source [] other) region' inner)
      (unfinished : inner.isResult = false) (undecided : inner.isInconclusive = true) :
      Scoped (within modify token other region) (inner.above (.restore token back :: below))
  /-- The result is there, and the next thing that happens is that `restore` is called. -/
  | finished {other region result current} (different : other ≠ token)
      (finishes : source.Finishes other region result current) :
      Scoped (within modify token other region)
        (.feeding result (.restore token back :: below) current)
  | leaving {other region result current} (different : other ≠ token)
      (finishes : source.Finishes other region result current) :
      Scoped (within modify token other region ++
          [.called (.restoring back result token current) current])
        (.calling (.restoring result) below current)
  /-- The run goes on with the result, under the token that `restore` has named. -/
  | left {other region result current next rest goal} (different : other ≠ token)
      (finishes : source.Finishes other region result current)
      (leads : Standing.Leads (.iterating (.ofResult result) below next) rest goal) :
      Scoped (within modify token other region ++
        .called (.restoring back result token current) current ::
          .answered (.token next : Answer Memory .token) :: rest) goal
  /-- A panic of `restore` takes the place of the result, and the token stays. -/
  | thrown {other region result current panic rest goal} (different : other ≠ token)
      (finishes : source.Finishes other region result current)
      (leads : Standing.Leads (.iterating (.raise (.panicked panic)) below current) rest goal) :
      Scoped (within modify token other region ++
        .called (.restoring back result token current) current :: .panicked panic :: rest) goal

end Scoped

namespace Standing

variable {source : Plan Memory} {modify : Token → Code Memory .token}
  {back : Result → Token → Token → Code Memory .token} {below : List (Frame Memory)}
  {token other current : Token} {result : Result} {happenings region : List (Happening Memory)}
  {goal : Standing Memory}

variable (modify) in
theorem Leads.scoped_of_finishes (different : other ≠ token)
    (finishes : source.Finishes other region result current)
    (leads : Leads (.feeding result (.restore token back :: below) current) happenings goal) :
    Scoped source modify back below token (within modify token other region ++ happenings) goal := by
  have taken : (Frame.restore token back : Frame Memory).call? result current =
      some (.restoring back result token current) := by
    cases result <;> rfl
  obtain ⟨count, path⟩ := leads
  cases path with
  | done =>
      rw [List.append_nil]
      exact .finished different finishes
  | step first path =>
      cases first with
      | skip refused => cases refused.symm.trans taken
      | meet found =>
          cases found.symm.trans taken
          cases path with
          | done => exact .leaving different finishes
          | step second path =>
              cases second with
              | restoreAnswer => exact .left different finishes ⟨_, path⟩
              | panic raises => exact .thrown different finishes ⟨_, path⟩

theorem Leads.scoped
    (leads : Leads (.iterating (.switch source modify (some back)) below token) happenings goal) :
    Scoped source modify back below token happenings goal := by
  obtain ⟨count, path⟩ := leads
  cases path with
  | done => exact .before
  | step first path =>
      cases first with
      | stop => exact .refused ⟨_, path⟩
      | descend sequencing => cases sequencing
      | «switch» =>
          cases path with
          | done => exact .asked
          | @step _ _ _ _ _ rest second path =>
              cases second with
              | panic raises => exact .unasked ⟨_, path⟩
              | sameToken => exact .unchanged ⟨_, path⟩
              | @scopedToken _ _ _ _ other different =>
                  -- The source runs above the frame that leaves the switch.
                  have region : Path _ (Standing.above (.restore token back :: below)
                      (.iterating source [] other)) _ _ := path
                  rcases region.of_above rfl with ⟨inner, region', path', rfl, same, undecided⟩ |
                    ⟨early, late, early', _, result, current, rfl, same, path', leads⟩
                  · cases finished : inner.isResult with
                    | false =>
                        have goes : Scoped source modify back below token
                            (within modify token other _) _ :=
                          .inside different same ⟨_, path'⟩ finished undecided
                        exact goes
                    | true =>
                        obtain ⟨result, current, rfl⟩ := eq_of_isResult finished
                        have goes : Scoped source modify back below token
                            (within modify token other _) _ :=
                          .finished different ⟨_, same, _, path'⟩
                        exact goes
                  · have left := leads.scoped_of_finishes modify different
                      ⟨early', same, _, path'⟩
                    rwa [within, List.append_assoc, List.cons_append] at left

end Standing

/-- What becomes of the scoped switches of a run. -/
structure Chronicle.Brackets (chronicle : Chronicle Memory) (run : Nat) : Prop where
  /-- Code is asked to restore a token where a switch that was entered is left, the innermost first;
  all have been left where the run has told an outcome, unless that is cancellation. -/
  matched : ∀ plan pending token receiver,
    (course run chronicle.history).head? = some (.started plan pending token receiver) →
      ∃ happenings goal brackets scopes,
        course run chronicle.history = .started plan pending token receiver :: happenings ∧
        chronicle.pool.situation.standings run = [goal] ∧
        Standing.Trail (.iterating plan pending.toList token) happenings brackets goal ∧
        happenings.filterMap Happening.leaving? = brackets.filter Bracket.isLeft ∧
        Matched (Frame.scopes pending.toList) brackets scopes ∧
        (goal.isCanceled = false → scopes = goal.scopes) ∧
        ∀ outcome, .told outcome ∈ happenings → outcome.isCanceled = false → scopes = []
  /-- No code is called once the run has found out that it is canceled. -/
  silent : ∀ before happening rest,
    course run chronicle.history = before ++ happening :: rest → happening.findsCanceled = true →
      calls rest = []

theorem Chronicle.Reachable.brackets {chronicle : Chronicle Memory}
    (reachable : chronicle.Reachable) (run : Nat) : chronicle.Brackets run where
  matched := by
    intro plan pending token receiver started
    obtain ⟨happenings, goal, listed, ⟨count, path⟩, stands, tellings⟩ :=
      reachable.holds.tracked.leads_of_started started
    obtain ⟨brackets, trail⟩ := path.exists_trail
    obtain ⟨scopes, matched, same⟩ := trail.matched
    refine ⟨happenings, goal, brackets, scopes, listed, stands, trail, trail.leaving, matched, same, ?_⟩
    intro outcome told live
    have member : outcome ∈ goal.outcome?.toList := by
      rw [← tellings]
      apply mem_tellings_iff.2
      rw [listed]
      exact .tail _ told
    obtain rfl := Standing.eq_ended (Option.mem_toList.1 member)
    exact same live
  silent := by
    intro before happening rest listed finds
    have accounts := reachable.holds.tracked run
    rw [listed] at accounts
    generalize receiverOf chronicle.pool.situation.runs run = receiver? at accounts
    generalize chronicle.pool.situation.standings run = standings at accounts
    generalize done : before ++ happening :: rest = happenings at accounts
    cases accounts with
    | unborn => simp at done
    | born leads =>
        obtain ⟨count, path⟩ := leads
        cases before with
        | nil =>
            cases done
            cases finds
        | cons start before =>
            cases done
            exact path.calls_of_findsCanceled rfl finds

/-- Scoped switches are well bracketed: in every run code is asked to restore a token where the
innermost switch that is open is left, and not once the run has found out that it is canceled; and
a run that comes to a scoped switch goes through it as `Scoped` says, so that at rest it has handed
over the result of the source if there is one. -/
theorem scoped_switches_bracketed (memory : Memory)
    (codes : List (Option String × Code Memory .unit)) (schedule later : List Nat) (run : Nat) :
    let chronicle := (Pool.opening memory codes).chronicle schedule
    chronicle.Brackets run ∧
      ∀ source modify back below token, chronicle.pool.situation.standings run =
          [.iterating (.switch source modify (some back)) below token] →
        ∃ happenings goal,
          course run (chronicle.after later).history =
            course run chronicle.history ++ happenings ∧
          (chronicle.after later).pool.situation.standings run = [goal] ∧
          Scoped source modify back below token happenings goal ∧
          ((chronicle.after later).pool.rests run = true → (∃ outcome, goal = .ended outcome) ∨
            ∃ epoch pending current, goal = .suspended epoch pending current) := by
  intro chronicle
  have reachable : chronicle.Reachable := ⟨memory, codes, schedule, rfl⟩
  refine ⟨reachable.brackets run, fun source modify back below token stands => ?_⟩
  obtain ⟨happenings, goal, listed, stands', leads, _⟩ := reachable.leads_after later stands rfl
  refine ⟨happenings, goal, listed, stands', leads.scoped, fun rests => ?_⟩
  exact ((reachable.after later).ended_or_resumable stands' rests).imp_right (·.2)

section Bracketing

def Token.giveBack (_result : Result) (old _current : Token) : Code Unit .token :=
  .done (.token old)

def Plan.bracketing : Plan Unit :=
  .switchScoped (.switchScoped .unit (fun _ => .done (.token (.tracked 1))) Token.giveBack)
    (fun _ => .done (.token (.tracked 0))) Token.giveBack

def Chronicle.bracketing : Chronicle Unit :=
  (Pool.opening () Plan.bracketing.alone).chronicle [0]

theorem standings_bracketing :
    Chronicle.bracketing.pool.situation.standings 0 =
      [.iterating Plan.bracketing [] .uncancelable] := by
  cbv

theorem leaving_bracketing :
    (course 0 (Chronicle.bracketing.after (List.replicate 14 0)).history).filterMap
        Happening.leaving? =
      [.left ⟨.tracked 0, Token.giveBack⟩ (.ok (.datum .null)) (.tracked 1),
        .left ⟨.uncancelable, Token.giveBack⟩ (.ok (.datum .null)) (.tracked 0)] := by
  cbv

/-- The inner switch is left before the outer one, each under its own token. -/
theorem scoped_switches_bracketed_nested :
    let later := Chronicle.bracketing.after (List.replicate 14 0)
    (course 0 later.history).filterMap Happening.leaving? =
        [.left ⟨.tracked 0, Token.giveBack⟩ (.ok (.datum .null)) (.tracked 1),
          .left ⟨.uncancelable, Token.giveBack⟩ (.ok (.datum .null)) (.tracked 0)] ∧
      Chronicle.bracketing.Brackets 0 ∧
      ∃ happenings goal,
        course 0 later.history = course 0 Chronicle.bracketing.history ++ happenings ∧
        later.pool.situation.standings 0 = [goal] ∧
        Scoped (.switchScoped .unit (fun _ => .done (.token (.tracked 1))) Token.giveBack)
          (fun _ => .done (.token (.tracked 0))) Token.giveBack [] .uncancelable happenings goal := by
  intro later
  have bracketed := scoped_switches_bracketed () Plan.bracketing.alone [0] (List.replicate 14 0) 0
  obtain ⟨happenings, goal, listed, stands, goes, -⟩ :=
    bracketed.2 _ _ _ _ _ standings_bracketing
  exact ⟨leaving_bracketing, bracketed.1, happenings, goal, listed, stands, goes⟩

end Bracketing

end Trampoline
