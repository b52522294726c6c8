import Trampoline.Proofs.Cancellation
import Trampoline.Proofs.Residue
import Trampoline.Proofs.Without

/-!
Runs with the sources of hops in place.

A hop runs its source as a nested run, with no frames below it.  Where the hop is left out, what the
nested run does comes in the place of the boundary, above the frames that are pending there.  If the
nested run finishes under the token that it started with, the program goes on from there as it does
from the boundary.  So all of it together is a run of the program without the hop.
-/

namespace Trampoline

variable {Memory : Type}

namespace Standing

def isSuspended : Standing Memory → Bool
  | .suspended _ _ _ => true
  | _ => false

def isSettled : Standing Memory → Bool
  | .feeding _ _ _ | .ending _ | .ended _ => true
  | _ => false

variable {standing next goal : Standing Memory} {happenings : List (Happening Memory)} {count : Nat}
  {boundary? : Option (Registration Memory)}

theorem Step.boundaryAfter (step : Step standing happenings next)
    (at_ : boundary?.isSome = standing.isSuspended) :
    (Trampoline.boundaryAfter boundary? happenings).isSome = next.isSuspended := by
  cases step with
  | reach => rfl
  | @cross pending token epoch outcome => cases outcome <;> rfl
  | _ => exact at_

theorem Path.boundaryAfter (path : Path count standing happenings goal)
    (at_ : boundary?.isSome = standing.isSuspended) :
    (Trampoline.boundaryAfter boundary? happenings).isSome = goal.isSuspended := by
  induction path generalizing boundary? with
  | done => exact at_
  | step first _ inductionHypothesis =>
      rw [boundaryAfter_append]
      exact inductionHypothesis (first.boundaryAfter at_)

/-- Away from hops that are left out, a run does not come to their boundaries. -/
theorem Step.isLeftOut_of_reached {chosen : Plan Memory → Context Memory → Bool}
    (step : Step standing happenings next) (stays : standing.isLeaving chosen = false) (epoch : Nat)
    (registration : Registration Memory) (token : Token) (pending : Stack (Frame Memory))
    (reached : .reached epoch registration token pending ∈ happenings) :
    registration.isLeftOut chosen = false := by
  cases step with
  | reach =>
      obtain ⟨_, rfl, _⟩ : _ ∧ _ ∧ _ := by simpa using reached
      exact stays
  | _ => simp at reached

theorem Leads.transcript_append (leads : Leads standing happenings goal)
    (away : standing.isSuspended = false) (away' : goal.isSuspended = false)
    (hidden : Registration Memory → Bool)
    (nested : Registration Memory → Nat → Token → List (Moment Memory))
    (rest : List (Happening Memory)) :
    transcript hidden nested none (happenings ++ rest) =
      transcript hidden nested none happenings ++ transcript hidden nested none rest := by
  obtain ⟨count, path⟩ := leads
  have left : (Trampoline.boundaryAfter none happenings).isSome = goal.isSuspended :=
    path.boundaryAfter away.symm
  rw [away', Option.isSome_eq_false_iff, Option.isNone_iff_eq_none] at left
  rw [transcript_append_after, left]

end Standing

namespace Chronicle

variable (chronicle : Chronicle Memory) (chosen : Plan Memory → Context Memory → Bool)

/-- What shows of a boundary for a nested run that is numbered together with its run. -/
def insideWithout (registration : Registration Memory) (number : Nat) (token : Token) :
    List (Moment Memory) :=
  chronicle.hop number.unpair.1 registration number.unpair.2 token ++
    (chronicle.inner (Registration.isLeftOut chosen) number.unpair.1 number.unpair.2).map
      (Moment.without chosen)

def toldWithout (number : Nat) : Option (Outcome Value) :=
  chronicle.insideTold number.unpair.1 number.unpair.2

theorem insideWithout_pair (run : Nat) (registration : Registration Memory) (epoch : Nat)
    (token : Token) (stays : registration.isLeftOut chosen = false) :
    chronicle.insideWithout chosen (registration.without chosen) (Nat.pair run epoch) token =
      (chronicle.inside (Registration.isLeftOut chosen) run registration epoch token).map
        (Moment.without chosen) := by
  have hop : chronicle.hop run (registration.without chosen) epoch token =
      (chronicle.hop run registration epoch token).map (Moment.without chosen) := by
    cases registration with
    | hopping source context =>
        simp only [Chronicle.hop, Registration.without, taking]
        split
        · rfl
        · cases nestedRun? chronicle.pool.host.runs ⟨run, epoch⟩ <;> rfl
    | _ => rfl
  simp [insideWithout, inside, stays, hop]

theorem inside_of_leftOut {source : Plan Memory} {context : Context Memory}
    (leaves : chosen source context = true) (run epoch : Nat) (token : Token) :
    chronicle.inside (Registration.isLeftOut chosen) run (.hopping source context) epoch token =
      chronicle.inner (Registration.isLeftOut chosen) run epoch := by
  simp [inside, Registration.isLeftOut, Plan.isLeftOut, leaves]

/-- No active token is canceled, no code completes the boundaries of hops, the contexts of the hops
that are left out do not panic, and the nested runs for these finish under the token that they start
with. -/
structure Calm (run : Nat) : Prop where
  orderly : ∀ inner, chronicle.Nests run inner →
    chronicle.Orderly (fun _ => false) (fun _ => none) inner
  unrefused : ∀ outer epoch source context token pending, chronicle.Nests run outer →
    chosen source context = true →
    .reached epoch (.hopping source context) token pending ∈ course outer chronicle.history →
      chronicle.refusal? outer epoch = none
  keepsToken : ∀ nested outer epoch source context token pending happenings rest result other,
    chronicle.Nests run nested → chosen source context = true →
    .reached epoch (.hopping source context) token pending ∈ course outer chronicle.history →
    course nested chronicle.history =
      .started source {} token (.forward ⟨outer, epoch⟩) :: (happenings ++ rest) →
    Standing.Leads (.iterating source [] token) happenings (.feeding result [] other) →
      other = token

/-- All that happens has happened, but for frames that boundaries save, to a run or to those that
are nested in it. -/
def Stems (run : Nat) (happenings : List (Happening Memory)) : Prop :=
  ∀ happening ∈ happenings, ∃ inner origin, chronicle.Nests run inner ∧
    origin ∈ course inner chronicle.history ∧
      (origin.without chosen inner).bare = happening.bare

/-- What a run does without the hops, where it does something with them. -/
structure Flattens (run : Nat) (boundary? : Option (Registration Memory))
    (happenings : List (Happening Memory)) (goal : Standing Memory)
    (flat : List (Happening Memory)) (goal' : Standing Memory) : Prop where
  shows : Trampoline.transcript (fun _ => false) (chronicle.insideWithout chosen)
      (boundary?.map (Registration.without chosen)) flat =
    (Trampoline.transcript (Registration.isLeftOut chosen)
      (chronicle.inside (Registration.isLeftOut chosen) run) boundary? happenings).map
        (Moment.without chosen)
  stems : chronicle.Stems chosen run flat
  settled : goal.isSettled = true → goal' = goal
  undecided : goal.isInconclusive = true → goal'.isInconclusive = true

/-- What comes in the place of the boundary of a hop, above the frames that are pending there. -/
structure TakesPlace (run epoch : Nat) (pending : List (Frame Memory)) (token : Token)
    (flat : List (Happening Memory)) (goal : Standing Memory) : Prop where
  shows : Trampoline.transcript (fun _ => false) (chronicle.insideWithout chosen) none flat =
    (chronicle.inner (Registration.isLeftOut chosen) run epoch).map (Moment.without chosen)
  stems : chronicle.Stems chosen run flat
  undecided : goal.isInconclusive = true
  told : ∀ result, chronicle.insideTold run epoch = some (.ofResult result) →
    goal = .feeding result pending token

/-- What happens to a run from anywhere on, in so many steps, it does without the hops. -/
def FlattensFrom (run count : Nat) : Prop :=
  ∀ standing boundary? happenings goal, boundary?.isSome = standing.isSuspended →
    Standing.Path count standing happenings goal → happenings ⊆ course run chronicle.history →
      ∃ flat goal', (standing.without chosen run).Leads flat goal' ∧
        chronicle.Flattens chosen run boundary? happenings goal flat goal'

variable {chronicle chosen} {run nested epoch count : Nat}

namespace Stems

variable {happenings rest : List (Happening Memory)}

theorem nil : chronicle.Stems chosen run [] := by
  intro happening member
  cases member

theorem of_subset (within : happenings ⊆ course run chronicle.history) :
    chronicle.Stems chosen run (happenings.map (Happening.without chosen run)) := by
  intro happening member
  obtain ⟨origin, listed, rfl⟩ := List.mem_map.1 member
  exact ⟨run, origin, .self, within listed, rfl⟩

theorem append (stems : chronicle.Stems chosen run happenings)
    (later : chronicle.Stems chosen run rest) : chronicle.Stems chosen run (happenings ++ rest) := by
  intro happening member
  exact (List.mem_append.1 member).elim (stems happening) (later happening)

theorem of_same (stems : chronicle.Stems chosen run happenings)
    (same : SameButFrames happenings rest) : chronicle.Stems chosen run rest := by
  intro happening member
  obtain ⟨other, listed, bare⟩ := same.symm.mem_bare member
  obtain ⟨inner, origin, nests, recorded, alike⟩ := stems other listed
  exact ⟨inner, origin, nests, recorded, alike.trans bare⟩

theorem outward (stems : chronicle.Stems chosen nested happenings)
    (forwards : receiverOf chronicle.pool.host.runs nested = some (.forward ⟨run, epoch⟩)) :
    chronicle.Stems chosen run happenings := by
  intro happening member
  obtain ⟨inner, origin, nests, recorded, alike⟩ := stems happening member
  exact ⟨inner, origin, .inner forwards nests, recorded, alike⟩

end Stems

theorem Calm.inner (calm : chronicle.Calm chosen run) (nests : chronicle.Nests run nested) :
    chronicle.Calm chosen nested where
  orderly inner deeper := calm.orderly inner (nests.trans deeper)
  unrefused _ _ _ _ _ _ deeper := calm.unrefused _ _ _ _ _ _ (nests.trans deeper)
  keepsToken _ _ _ _ _ _ _ _ _ _ _ deeper :=
    calm.keepsToken _ _ _ _ _ _ _ _ _ _ _ (nests.trans deeper)

theorem Calm.not_told_canceled (reachable : chronicle.Reachable) (calm : chronicle.Calm chosen run) :
    .told .canceled ∉ course run chronicle.history := by
  intro told
  obtain ⟨inner, token, nests, looked⟩ := (reachable.notices told).looked
  cases (calm.orderly inner nests).looks _ _ looked

theorem Calm.exists_result (reachable : chronicle.Reachable) (calm : chronicle.Calm chosen run)
    {outcome : Outcome Value} (unrefused : chronicle.refusal? run epoch = none)
    (told : chronicle.insideTold run epoch = some outcome) :
    ∃ result, outcome = .ofResult result := by
  cases outcome with
  | completed value => exact ⟨.ok value, rfl⟩
  | failed failure => exact ⟨.error failure, rfl⟩
  | canceled =>
      rw [insideTold, unrefused] at told
      obtain ⟨nested, found, told⟩ := Option.bind_eq_some_iff.1 told
      have nests : chronicle.Nests run nested := .inner (receiverOf_of_nestedRun? found) .self
      exact absurd (mem_tellings_iff.1 (List.mem_of_mem_head? told))
        ((calm.inner nests).not_told_canceled reachable)

section TakesPlace

variable {token : Token}

/-- What a nested run does without the hops it does above pending frames as well. -/
theorem Flattens.takesPlace {part flat : List (Happening Memory)} {place goal : Standing Memory}
    {plan : Plan Memory} (flattens : chronicle.Flattens chosen nested none part place flat goal)
    (leads : Standing.Leads (.iterating plan [] token) flat goal)
    (forwards : receiverOf chronicle.pool.host.runs nested = some (.forward ⟨run, epoch⟩))
    (shows : chronicle.inner (Registration.isLeftOut chosen) run epoch =
      Trampoline.transcript (Registration.isLeftOut chosen)
        (chronicle.inside (Registration.isLeftOut chosen) nested) none part)
    (undecided : goal.isInconclusive = true)
    (told : ∀ result, chronicle.insideTold run epoch = some (.ofResult result) →
      goal = .feeding result [] token) (pending : List (Frame Memory)) :
    ∃ flat goal, Standing.Leads (.iterating plan pending token) flat goal ∧
      chronicle.TakesPlace chosen run epoch pending token flat goal := by
  obtain ⟨count, path⟩ := leads
  obtain ⟨flat', lifted, same⟩ := path.above undecided pending
  refine ⟨flat', goal.above pending, ⟨count, lifted⟩, ?_, ?_, ?_, ?_⟩
  · rw [← same.transcript_eq, shows]
    exact flattens.shows
  · exact (flattens.stems.of_same same).outward forwards
  · rwa [Standing.isInconclusive_above]
  · intro result tells
    rw [told result tells]
    rfl

/-- The source of a hop that is left out takes the place of the boundary. -/
theorem Calm.takesPlace (reachable : chronicle.Reachable) (calm : chronicle.Calm chosen run)
    (inner : ∀ nested, receiverOf chronicle.pool.host.runs nested = some (.forward ⟨run, epoch⟩) →
      run < nested → nested < chronicle.pool.host.runs.size →
        ∀ count, chronicle.FlattensFrom chosen nested count)
    {source : Plan Memory} {context : Context Memory} {saved : Stack (Frame Memory)}
    (leaves : chosen source context = true)
    (reached : .reached epoch (.hopping source context) token saved ∈ course run chronicle.history)
    (pending : List (Frame Memory)) :
    ∃ flat goal, Standing.Leads (.iterating (source.without chosen) pending token) flat goal ∧
      chronicle.TakesPlace chosen run epoch pending token flat goal := by
  have unrefused := calm.unrefused run epoch source context token saved .self leaves reached
  have opens := inner_eq reachable.holds (Registration.isLeftOut chosen) reached
  rw [innerRun?, unrefused] at opens
  cases found : nestedRun? chronicle.pool.host.runs ⟨run, epoch⟩ with
  | none =>
      rw [found] at opens
      refine ⟨[], _, .refl, ?_, .nil, rfl, ?_⟩
      · rw [opens]
        rfl
      · intro result told
        rw [insideTold, unrefused, found] at told
        cases told
  | some nested =>
      rw [found] at opens
      have forwards := receiverOf_of_nestedRun? found
      obtain ⟨due, asked, later, bound, begun⟩ :=
        started_of_nestedRun? reachable.holds reached found
      cases List.mem_singleton.1 asked
      obtain ⟨happenings, standing, listed, ⟨count, path⟩, _, told⟩ :=
        reachable.holds.tracked.leads_of_started begun
      have within : happenings ⊆ course nested chronicle.history := by
        rw [listed]
        exact List.subset_cons_self _ _
      have shows := opens.trans (transcript_of_started _ (Registration.isLeftOut chosen) listed)
      have tells : chronicle.insideTold run epoch = standing.outcome? := by
        rw [insideTold, unrefused, found, Option.bind_some, Chronicle.told, told,
          Option.head?_toList]
      have flattens := inner nested forwards later bound
      -- Above pending frames only what comes before an outcome can be done.
      rcases path.conclusion rfl with
        undecided | ⟨early, late, fewer, result, other, rfl, path', leads⟩
      · obtain ⟨flat, goal, flatLeads, flattens⟩ := flattens count _ none _ _ rfl path within
        refine flattens.takesPlace flatLeads forwards shows (flattens.undecided undecided) ?_ pending
        intro result told
        rw [tells] at told
        rw [Standing.eq_ended told] at undecided
        cases result <;> cases undecided
      · have earlier := List.Subset.trans (List.subset_append_left early late) within
        obtain ⟨flat, goal, flatLeads, flattens⟩ := flattens fewer _ none _ _ rfl path' earlier
        obtain rfl := flattens.settled rfl
        obtain rfl := calm.keepsToken _ _ _ _ _ _ _ _ _ _ _ (.inner forwards .self) leaves reached
          listed ⟨_, path'⟩
        refine flattens.takesPlace flatLeads forwards ?_ rfl ?_ pending
        · rw [shows]
          rcases leads.of_feeding_nil with ⟨rfl, _⟩ | ⟨rfl, _⟩
          · rw [List.append_nil]
          · exact transcript_append_told ..
        · intro final told
          rw [tells] at told
          rcases leads.of_feeding_nil with ⟨_, untold⟩ | ⟨_, rfl⟩
          · rw [told] at untold
            cases untold
          · cases result <;> cases final <;> cases told <;> rfl

end TakesPlace

namespace Flattens

variable {boundary? : Option (Registration Memory)} {first rest flat : List (Happening Memory)}
  {standing goal goal' : Standing Memory} {token : Token} {found : Bool}

theorem done :
    chronicle.Flattens chosen run boundary? [] standing [] (standing.without chosen run) where
  shows := rfl
  stems := .nil
  settled settled := by cases standing <;> first | rfl | cases settled
  undecided undecided := by cases standing <;> exact undecided

theorem kept (within : first ⊆ course run chronicle.history)
    (stays : ∀ epoch registration token pending, .reached epoch registration token pending ∈ first →
      registration.isLeftOut chosen = false)
    (later : chronicle.Flattens chosen run (boundaryAfter boundary? first) rest goal flat goal') :
    chronicle.Flattens chosen run boundary? (first ++ rest) goal
      (first.map (Happening.without chosen run) ++ flat) goal' where
  shows := by
    rw [transcript_append_after, boundaryAfter_without, later.shows, transcript_append_after,
      transcript_without _ _ (chronicle.insideWithout_pair chosen run) stays, List.map_append]
  stems := (Stems.of_subset within).append later.stems
  settled := later.settled
  undecided := later.undecided

theorem looked (later : chronicle.Flattens chosen run boundary? rest goal flat goal') :
    chronicle.Flattens chosen run boundary? (.looked token found :: rest) goal flat goal' :=
  ⟨later.shows, later.stems, later.settled, later.undecided⟩

end Flattens

section Flatten

variable {happenings : List (Happening Memory)} {goal : Standing Memory} {token : Token}
  {source : Plan Memory} {context : Context Memory} {pending : List (Frame Memory)}
  {result : Result}

namespace TakesPlace

variable {saved : Stack (Frame Memory)} {flat rest : List (Happening Memory)}
  {place goal' : Standing Memory}

theorem reached (leaves : chosen source context = true)
    (takes : chronicle.TakesPlace chosen run epoch pending token flat place) :
    chronicle.Flattens chosen run none
      [.looked token false, .reached epoch (.hopping source context) token saved]
      (.suspended epoch pending token) flat place where
  shows := by
    rw [transcript_reached_nested _ _ rfl, Trampoline.transcript, List.append_nil,
      chronicle.inside_of_leftOut chosen leaves]
    exact takes.shows
  stems := takes.stems
  settled := by simp [Standing.isSettled]
  undecided _ := takes.undecided

theorem beyond {outcome : Outcome Value} {before : List (Happening Memory)}
    (leaves : chosen source context = true)
    (takes : chronicle.TakesPlace chosen run epoch pending token before
      (.feeding result pending token))
    (leads : Standing.Leads (.iterating (source.without chosen) pending token) before
      (.feeding result pending token))
    (later : chronicle.Flattens chosen run none rest goal flat goal') :
    chronicle.Flattens chosen run none
      (.looked token false :: .reached epoch (.hopping source context) token saved ::
        .crossed epoch outcome :: rest) goal (before ++ flat) goal' where
  shows := by
    have first := leads.transcript_append rfl rfl (fun _ => false) (chronicle.insideWithout chosen)
      flat
    rw [transcript_reached_nested _ _ rfl, transcript_crossed_nested _ _ rfl, List.map_append,
      chronicle.inside_of_leftOut chosen leaves, Option.map_none, first, takes.shows]
    exact congrArg _ later.shows
  stems := takes.stems.append later.stems
  settled := later.settled
  undecided := later.undecided

end TakesPlace

/-- Away from hops that are left out, a run takes the same step. -/
theorem flatten_kept {standing : Standing Memory} {boundary? : Option (Registration Memory)}
    (within : happenings ⊆ course run chronicle.history)
    (shorter : ∀ fewer < count, chronicle.FlattensFrom chosen run fewer)
    (at_ : boundary?.isSome = standing.isSuspended) (stays : standing.isLeaving chosen = false)
    (path : Standing.Path count standing happenings goal) :
    ∃ flat goal', (standing.without chosen run).Leads flat goal' ∧
      chronicle.Flattens chosen run boundary? happenings goal flat goal' := by
  cases path with
  | done => exact ⟨[], _, .refl, .done⟩
  | @step count _ next goal first rest step path =>
      have later := List.Subset.trans (List.subset_append_right first rest) within
      obtain ⟨flat, goal', onward, flattens⟩ :=
        shorter count (Nat.lt_succ_self _) _ _ _ _ (step.boundaryAfter at_) path later
      refine ⟨_, goal', (Standing.Leads.one (step.without stays)).trans onward, ?_⟩
      exact flattens.kept (List.Subset.trans (List.subset_append_left _ _) within)
        (step.isLeftOut_of_reached stays)

variable (calm : chronicle.Calm chosen run) (within : happenings ⊆ course run chronicle.history)
  (shorter : ∀ fewer < count, chronicle.FlattensFrom chosen run fewer)
include calm within shorter

theorem Calm.flatten_result
    (path : Standing.Path count (.iterating (.ofResult result) pending token) happenings goal) :
    ∃ flat goal', Standing.Leads (.feeding result pending token) flat goal' ∧
      chronicle.Flattens chosen run none happenings goal flat goal' := by
  rcases path.of_result with ⟨rfl, rfl⟩ | ⟨_, rfl⟩ | ⟨fewer, more, rfl, rfl, path'⟩
  · exact ⟨[], _, .refl, rfl, .nil, by simp [Standing.isSettled], fun _ => rfl⟩
  · cases (calm.orderly run .self).looks _ _ (within (.head _))
  · obtain ⟨flat, goal', leads, flattens⟩ := shorter fewer (Nat.lt_succ_self _) _ none _ _ rfl path'
      (List.subset_of_cons_subset within)
    exact ⟨flat, goal', leads, flattens.looked⟩

/-- At the boundary of a hop that is left out, a run goes on with the source instead. -/
theorem Calm.flatten_hopping (reachable : chronicle.Reachable)
    (inner : ∀ epoch nested,
      receiverOf chronicle.pool.host.runs nested = some (.forward ⟨run, epoch⟩) →
      run < nested → nested < chronicle.pool.host.runs.size →
        ∀ count, chronicle.FlattensFrom chosen nested count)
    (leaves : chosen source context = true)
    (path : Standing.Path count (.iterating (.async (.hopping source context)) pending token)
      happenings goal) :
    ∃ flat goal', Standing.Leads (.iterating (source.without chosen) pending token) flat goal' ∧
      chronicle.Flattens chosen run none happenings goal flat goal' := by
  have orderly := calm.orderly run .self
  have looks : Standing.Looks (fun _ => false) happenings := fun token found member =>
    orderly.looks token found (within member)
  have takesPlace {epoch : Nat} {saved : Stack (Frame Memory)}
      (reached : .reached epoch (.hopping source context) token saved ∈ happenings) :=
    calm.takesPlace reachable (inner epoch) leaves (within reached) pending
  cases path.passing looks rfl with
  | before => exact ⟨[], _, .refl, rfl, .nil, by simp [Standing.isSettled], fun _ => rfl⟩
  | reached =>
      obtain ⟨flat, place, leads, takes⟩ := takesPlace (.tail _ (.head _))
      exact ⟨flat, place, leads, takes.reached leaves⟩
  | @crossed saved epoch outcome count rest goal listed path =>
      obtain ⟨before, place, leads, takes⟩ := takesPlace (.tail _ (.head _))
      have told := insideTold_eq_some reachable.holds orderly (within (.tail _ (.head _)))
        (within (.tail _ (.tail _ (.head _)))) rfl
      have unrefused := calm.unrefused run epoch source context token saved .self leaves
        (within (.tail _ (.head _)))
      obtain ⟨result, rfl⟩ := calm.exists_result reachable unrefused told
      obtain rfl := takes.told result told
      have path : Standing.Path count (.iterating (.ofResult result) pending token) rest goal := by
        cases result <;> exact path
      obtain ⟨flat, goal', onward, flattens⟩ := calm.flatten_result
        (List.Subset.trans (List.subset_append_right [_, _, _] rest) within)
        (fun fewer less => shorter fewer (by omega)) path
      exact ⟨before ++ flat, goal', leads.trans onward, takes.beyond leaves leads flattens⟩

theorem Calm.flatten_continueOn (leaves : chosen source context = true)
    (path : Standing.Path count (.iterating (.continueOn source context) pending token) happenings
      goal) :
    ∃ flat goal', Standing.Leads (.iterating (source.without chosen) pending token) flat goal' ∧
      chronicle.Flattens chosen run none happenings goal flat goal' := by
  obtain ⟨hop, hopping⟩ := Plan.without_of_leftOut leaves
  cases path with
  | done =>
      rw [← hop]
      exact ⟨[], _, .refl, .done⟩
  | @step count _ next goal first rest step path =>
      have later := List.Subset.trans (List.subset_append_right first rest) within
      cases step with
      | stop => cases (calm.orderly run .self).looks _ _ (within (.head _))
      | descend sequencing => cases sequencing
      | hop =>
          obtain ⟨flat, goal', onward, flattens⟩ :=
            shorter count (Nat.lt_succ_self _) _ none _ _ rfl path later
          rw [Standing.without, hopping] at onward
          exact ⟨flat, goal', onward, flattens.looked⟩

omit within shorter

/-- Whatever a run does it does without the hops, with its nested runs in place. -/
theorem Calm.flatten (reachable : chronicle.Reachable) (count : Nat) :
    chronicle.FlattensFrom chosen run count := by
  -- Nested runs start later than their run, and beyond a hop there are fewer steps of the run left.
  induction left : chronicle.pool.host.runs.size - run using Nat.strongRecOn
    generalizing run count with
  | ind left nestedRuns =>
      have inner (epoch nested : Nat)
          (forwards : receiverOf chronicle.pool.host.runs nested = some (.forward ⟨run, epoch⟩))
          (later : run < nested) (bound : nested < chronicle.pool.host.runs.size) (count : Nat) :
          chronicle.FlattensFrom chosen nested count :=
        nestedRuns _ (by omega) (calm.inner (.inner forwards .self)) count rfl
      induction count using Nat.strongRecOn with
      | ind count shorter =>
          intro standing boundary? happenings goal at_ path within
          cases leaves : standing.isLeaving chosen with
          | false => exact flatten_kept within shorter at_ leaves path
          | true =>
              obtain ⟨source, context, pending, token, chooses, place, hop⟩ :=
                Standing.cases_of_isLeaving leaves
              rw [place]
              rcases hop with rfl | rfl
              · obtain rfl := Option.isNone_iff_eq_none.1 (Option.isSome_eq_false_iff.1 at_)
                exact calm.flatten_continueOn within shorter chooses path
              · obtain rfl := Option.isNone_iff_eq_none.1 (Option.isSome_eq_false_iff.1 at_)
                exact calm.flatten_hopping within shorter reachable inner chooses path

end Flatten

end Chronicle

end Trampoline
