import Mathlib
import Trampoline.Proofs.Handover
import Trampoline.Proofs.Numbering
import Trampoline.Proofs.Region
import Trampoline.Proofs.Stepped
import Trampoline.Proofs.Without

/-!
Stepping first and running afterwards is running.

A run of what stepping has left goes on where stepping has stopped.  If stepping has stopped with a
result or with nothing pending, the run itself does; otherwise it is at a boundary at once, and the
run that is nested for this boundary goes on for it, with the frames that were pending.  So what
stepping has done and what is done afterwards is, together, what a run does.
-/

namespace Trampoline

variable {Memory : Type}

namespace Standing

variable {happenings : List (Happening Memory)} {goal : Standing Memory} {token : Token}

theorem Leads.of_ending {outcome : Outcome Value} (leads : Leads (.ending outcome) happenings goal) :
    (happenings = [] ∧ goal.outcome? = none) ∨
      (happenings = [.told outcome] ∧ goal = .ended outcome) := by
  obtain ⟨count, path⟩ := leads
  cases path with
  | done => exact .inl ⟨rfl, rfl⟩
  | step first path =>
      cases first with
      | tell =>
          obtain ⟨rfl, rfl⟩ := path.of_ended
          exact .inr ⟨rfl, rfl⟩

theorem Leads.of_feeding_nil {result : Result}
    (leads : Leads (.feeding result [] token) happenings goal) :
    (happenings = [] ∧ goal.outcome? = none) ∨
      (happenings = [.told (.ofResult result)] ∧ goal = .ended (.ofResult result)) := by
  obtain ⟨count, path⟩ := leads
  cases path with
  | done => exact .inl ⟨rfl, rfl⟩
  | step first path =>
      cases first with
      | conclude => exact Leads.of_ending ⟨_, path⟩

/-- With the outcome of its last boundary a run has come to its own; no more of it shows. -/
theorem Leads.of_after {outcome : Outcome Value}
    (leads : Leads (.after outcome [] token) happenings goal)
    (looks : Looks (fun _ => false) happenings) :
    (∀ nested, transcript (fun _ => false) nested none happenings = []) ∧
      (∀ inside, happenings.flatMap (Happening.numbers inside) = []) ∧
        (goal.outcome? = none ∨ goal.outcome? = some outcome) := by
  have concluded (result : Result)
      (leads : Leads (.iterating (.ofResult result) [] token) happenings goal) :
      (∀ nested, transcript (fun _ => false) nested none happenings = []) ∧
        (∀ inside, happenings.flatMap (Happening.numbers inside) = []) ∧
          (goal.outcome? = none ∨ goal.outcome? = some (.ofResult result)) := by
    rcases leads.of_result with ⟨rfl, rfl⟩ | ⟨_, rfl⟩ | ⟨more, rfl, feeds⟩
    · exact ⟨fun _ => rfl, fun _ => rfl, .inl rfl⟩
    · cases looks _ _ (.head _)
    · rcases feeds.of_feeding_nil with ⟨rfl, untold⟩ | ⟨rfl, rfl⟩
      · exact ⟨fun _ => rfl, fun _ => rfl, .inl untold⟩
      · exact ⟨fun _ => rfl, fun _ => rfl, .inr rfl⟩
  cases outcome with
  | completed value => exact concluded (.ok value) leads
  | failed failure => exact concluded (.error failure) leads
  | canceled =>
      rcases Leads.of_ending leads with ⟨rfl, untold⟩ | ⟨rfl, rfl⟩
      · exact ⟨fun _ => rfl, fun _ => rfl, .inl untold⟩
      · exact ⟨fun _ => rfl, fun _ => rfl, .inr rfl⟩

end Standing

/-- A run of what stepping has left goes on where stepping has stopped, by itself or with the run
that is nested for its boundary. -/
structure Chronicle.TakesUp (chronicle : Chronicle Memory) (run : Nat)
    (happenings : List (Happening Memory)) (standing : Standing Memory) (runner : Nat)
    (more : List (Happening Memory)) (goal : Standing Memory) : Prop where
  leads : standing.Leads more goal
  within : more ⊆ course runner chronicle.history
  nests : chronicle.Nests run runner
  numbered : Numbered 0 more
  shows : chronicle.shows run happenings = chronicle.shows runner more
  numbers : happenings.flatMap (Happening.numbers (chronicle.insides run).numbers) =
    more.flatMap (Happening.numbers (chronicle.insides runner).numbers)
  told : chronicle.told run = none ∨ chronicle.told run = goal.outcome?

section TakesUp

variable {chronicle : Chronicle Memory} (reachable : chronicle.Reachable) {run kept : Nat}
  {rest : Plan Memory} {token : Token} {receiver : Receiver Memory} {standing : Standing Memory}
  {happenings : List (Happening Memory)}
include reachable

/-- At its boundary for what is pending, a run leaves it to the nested run to go on. -/
theorem Chronicle.takesUp_of_reached {epoch : Nat} {head : Plan Memory}
    {pending saved : Stack (Frame Memory)}
    (reached : .reached epoch (.finishing head pending) token saved ∈ course run chronicle.history)
    (shows : chronicle.shows run happenings = chronicle.inner (fun _ => false) run epoch)
    (numbers : happenings.flatMap (Happening.numbers (chronicle.insides run).numbers) =
      (chronicle.insides run).numbers epoch)
    (told : chronicle.told run = none ∨ chronicle.told run = chronicle.insideTold run epoch) :
    ∃ runner more goal,
      chronicle.TakesUp run happenings (.iterating head pending.toList token) runner more goal := by
  have unrefused := reachable.refusal?_finishing reached
  rw [Chronicle.inner_eq reachable.holds _ reached, Chronicle.innerRun?, unrefused] at shows
  rw [Chronicle.numbers_inside reachable reached, Chronicle.innerRun?, unrefused] at numbers
  rw [Chronicle.insideTold, unrefused] at told
  cases found : nestedRun? chronicle.pool.host.runs ⟨run, epoch⟩ with
  | none =>
      rw [found] at shows numbers told
      exact ⟨run, [], _, .refl, List.nil_subset _, .self, ⟨0, rfl⟩, shows, numbers,
        .inl (told.elim id id)⟩
  | some nested =>
      rw [found] at shows numbers told
      obtain ⟨due, asked, _, _, begun⟩ :=
        Chronicle.started_of_nestedRun? reachable.holds reached found
      cases List.mem_singleton.1 asked
      obtain ⟨more, goal, listed, leads, _, tells⟩ :=
        reachable.holds.tracked.leads_of_started begun
      have numbered := reachable.numbered nested
      rw [listed] at numbered
      refine ⟨nested, more, goal, leads, ?_, .inner (receiverOf_of_nestedRun? found) .self, numbered,
        ?_, ?_, ?_⟩
      · rw [listed]
        exact List.subset_cons_self _ _
      · rw [shows]
        exact Chronicle.transcript_of_started _ _ listed
      · rw [numbers]
        exact Chronicle.numbers_of_started listed
      · rw [Option.bind_some] at told
        rwa [Chronicle.told, Chronicle.told, tells, Option.head?_toList] at told

variable (listed : course run chronicle.history = .started (.held kept) {} token receiver ::
    .looked token false :: .recalled kept rest :: happenings)
include listed

theorem Chronicle.leads_of_recalled :
    ∃ goal, Standing.Leads (.iterating rest [] token) happenings goal ∧
      chronicle.told run = goal.outcome? ∧ happenings ⊆ course run chronicle.history ∧
      Numbered 0 happenings := by
  obtain ⟨whole, goal, same, ⟨count, path⟩, _, told⟩ :=
    reachable.holds.tracked.leads_of_started (by rw [listed]; rfl)
  have numbered := reachable.numbered run
  rw [listed] at same numbered
  cases same
  rw [Chronicle.told, told, Option.head?_toList, listed]
  refine ⟨goal, ?_, rfl, List.subset_append_right [_, _, _] _, numbered⟩
  generalize found : Happening.looked token false :: .recalled kept rest :: happenings = all at path
  cases path with
  | done => cases found
  | step first path =>
      cases first with
      | stop => cases found
      | descend sequencing => cases sequencing
      | lookUp =>
          cases found
          exact ⟨_, path⟩

theorem Residual.takesUp (residual : Residual token rest standing)
    (orderly : chronicle.Orderly (fun _ => false) (fun _ => none) run) :
    ∃ runner more goal, chronicle.TakesUp run happenings standing runner more goal := by
  obtain ⟨goal, leads, told, within, numbered⟩ := Chronicle.leads_of_recalled reachable listed
  have looks : Standing.Looks (fun _ => false) happenings :=
    fun token found member => orderly.looks token found (within member)
  cases residual with
  | @result result =>
      rcases leads.of_result with ⟨rfl, rfl⟩ | ⟨_, rfl⟩ | ⟨more, rfl, feeds⟩
      · exact ⟨run, [], _, .refl, within, .self, numbered, rfl, rfl, .inl told⟩
      · cases looks _ _ (.head _)
      · exact ⟨run, more, goal, feeds, List.subset_of_cons_subset within, .self, numbered, rfl, rfl,
          .inr told⟩
  | head stops => exact ⟨run, happenings, goal, leads, within, .self, numbered, rfl, rfl, .inr told⟩
  | @pending head pending stops =>
      obtain ⟨count, path⟩ := leads
      cases path.passing looks rfl with
      | before => exact ⟨run, [], _, .refl, within, .self, numbered, rfl, rfl, .inl told⟩
      | @reached saved epoch empty =>
          refine Chronicle.takesUp_of_reached reachable (within (.tail _ (.head _))) ?_ ?_ (.inl told)
          · rw [Chronicle.shows, transcript_reached_nested _ _ rfl, Trampoline.transcript,
              List.append_nil]
            rfl
          · rw [Happening.numbers_reached, Registration.isNested, if_pos rfl, List.flatMap_nil,
              List.append_nil]
      | @crossed saved epoch outcome count later goal empty path =>
          have reached := within (.tail _ (.head _))
          have crossed := within (.tail _ (.tail _ (.head _)))
          have calm : Standing.Looks (fun _ => false) later := fun token found member =>
            looks token found (List.subset_append_right [_, _, _] later member)
          obtain ⟨shown, numbers, ends⟩ := Standing.Leads.of_after ⟨_, path⟩ calm
          have tells := Chronicle.insideTold_eq_some reachable.holds orderly reached crossed rfl
          refine Chronicle.takesUp_of_reached reachable reached ?_ ?_ ?_
          · rw [Chronicle.shows, transcript_reached_nested _ _ rfl, transcript_crossed_nested _ _ rfl,
              shown, List.append_nil]
            rfl
          · rw [Happening.numbers_reached, Registration.isNested, if_pos rfl,
              Happening.numbers_crossed, numbers, List.append_nil]
          · rw [told, tells]
            exact ends

end TakesUp

/-- What stepping has done shows as such, and has no part in the boundaries of the run that goes on. -/
theorem Likeness.Abreast.after_stepping {likeness : Likeness Memory} {insides insides' : Insides Memory}
    {before : Nat} {stepped happenings happenings' : List (Happening Memory)}
    (abreast : likeness.Abreast (fun _ => false) insides insides' before happenings happenings')
    (only : ∀ happening ∈ stepped, happening.isStepped = true) :
    likeness.Abreast (fun _ => false) insides insides' before (stepped ++ happenings) happenings' := by
  have reaches {epoch : Nat} {registration : Registration Memory} {token : Token}
      {pending : Stack (Frame Memory)}
      (reached : .reached epoch registration token pending ∈ stepped ++ happenings) :
      .reached epoch registration token pending ∈ happenings := by
    rcases List.mem_append.1 reached with early | late
    · cases only _ early
    · exact late
  have crosses {epoch : Nat} {outcome : Outcome Value}
      (crossed : .crossed epoch outcome ∈ stepped ++ happenings) :
      .crossed epoch outcome ∈ happenings := by
    rcases List.mem_append.1 crossed with early | late
    · cases only _ early
    · exact late
  constructor
  · constructor
    · intro token found looked
      rcases List.mem_append.1 looked with early | late
      · simpa [Happening.isStepped] using only _ early
      · exact abreast.bridged.looks token found late
    · exact fun _ _ _ _ _ _ reached crossed =>
        abreast.bridged.settled _ _ _ _ _ _ (reaches reached) (crosses crossed)
    · exact fun _ _ _ _ _ reached crossed =>
        abreast.bridged.forwarded _ _ _ _ _ (reaches reached) (crosses crossed)
  · exact abreast.bridged'
  · exact fun _ _ _ _ _ _ _ reached => abreast.hops _ _ _ _ _ _ _ (reaches reached)
  · exact fun _ _ _ _ _ _ reached => abreast.inner _ _ _ _ _ _ (reaches reached)
  · exact (Numbered.append_iff fun happening member =>
      Happening.isPassage_of_isStepped (only happening member)).2 abreast.numbered
  · exact abreast.numbered'

theorem Chronicle.shows_append {chronicle : Chronicle Memory} {run : Nat}
    {happenings : List (Happening Memory)}
    (quiet : ∀ happening ∈ happenings, happening.isPassage = false) (more : List (Happening Memory)) :
    chronicle.shows run (happenings ++ more) =
      happenings.flatMap Happening.shown ++ chronicle.shows run more :=
  transcript_append _ _ quiet more

section InStep

variable {chronicle chronicle' : Chronicle Memory} {likeness : Likeness Memory}
  {run run' runner : Nat} {plan plan' : Plan Memory} {token : Token} {receiver' : Receiver Memory}
  {standing goal : Standing Memory} {stepped happenings more : List (Happening Memory)}

/-- What stepping has done and what is done afterwards goes in step with a run. -/
theorem Chronicle.TakesUp.inStep (reachable : chronicle.Reachable) (reachable' : chronicle'.Reachable)
    (kept : likeness.replaced = fun _ => none) (plans : likeness.Plans plan plan')
    (leads : Standing.Leads (.iterating plan [] token) stepped standing)
    (only : ∀ happening ∈ stepped, happening.isStepped = true)
    (takesUp : chronicle.TakesUp run happenings standing runner more goal)
    (started' : (course run' chronicle'.history).head? = some (.started plan' {} token receiver'))
    (orderly : ∀ inner, chronicle.Nests runner inner →
      chronicle.Orderly (fun _ => false) (fun _ => none) inner)
    (orderly' : ∀ inner, chronicle'.Nests run' inner →
      chronicle'.Orderly (fun _ => false) (fun _ => none) inner)
    (consistent : likeness.Consistent
      (stepped.flatMap Happening.shown ++ chronicle.shows run happenings)
      (chronicle'.transcript (fun _ => false) run')) :
    likeness.InStep (stepped.flatMap Happening.shown ++ chronicle.shows run happenings)
        (chronicle'.transcript (fun _ => false) run') (chronicle.told run) (chronicle'.told run') ∧
      NumberedAlike (happenings.flatMap (Happening.numbers (chronicle.insides run).numbers))
        (chronicle'.numbers run') (chronicle.told run) (chronicle'.told run') := by
  obtain ⟨happenings', standing', listed', ⟨count', path'⟩, _, told'⟩ :=
    reachable'.holds.tracked.leads_of_started started'
  have quiet : ∀ happening ∈ stepped, happening.isPassage = false := fun happening member =>
    Happening.isPassage_of_isStepped (only happening member)
  have numbered' := reachable'.numbered run'
  rw [listed'] at numbered'
  have within' : happenings' ⊆ course run' chronicle'.history := by
    rw [listed']
    exact List.subset_cons_self _ _
  -- Nested runs on both sides are of the two chronicles themselves.
  have inner : chronicle.NestedNumberAlike chronicle' likeness runner run' := by
    intro epoch current nested nested' source source' frames frames' forwards forwards' _ _ sources
      among begun begun'
    exact Chronicle.numberedAlike reachable reachable' kept sources among begun begun'
      (fun inner nests => orderly inner (.inner forwards nests))
      fun inner nests => orderly' inner (.inner forwards' nests)
  have abreast := (Chronicle.abreast_of_nested reachable reachable' kept orderly orderly' takesUp.within
    within' inner takesUp.numbered numbered').after_stepping only
  obtain ⟨count, path⟩ := leads.trans takesUp.leads
  have tells : chronicle'.told run' = standing'.outcome? := by
    rw [Chronicle.told, told', Option.head?_toList]
  rw [takesUp.shows, ← Chronicle.shows_append quiet, Chronicle.transcript_of_started _ _ listed']
    at consistent ⊢
  rw [takesUp.numbers, Chronicle.numbers_of_started listed']
  constructor
  · have bridged := abreast.bridged
    rw [← kept] at bridged
    have stays := Likeness.stayInStep count count' _ _ _ _ _ _ (.iterating plans .nil) path path'
      bridged abreast.bridged' abreast.hops
    rw [Likeness.hides_eq_false (congrFun kept)] at stays
    exact (stays consistent).forget takesUp.told (.inr tells)
  · have stays := Likeness.stayNumbered kept count count' 0 _ _ _ _ _ _ (.iterating plans .nil) path
      path' abreast consistent
    rw [List.flatMap_append, Happening.numbers_eq_nil _ quiet, List.nil_append] at stays
    exact stays.forget takesUp.told (.inr tells)

end InStep

theorem Chronicle.Nests.trans {chronicle : Chronicle Memory} {run nested inner : Nat}
    (nests : chronicle.Nests run nested) (deeper : chronicle.Nests nested inner) :
    chronicle.Nests run inner := by
  induction nests with
  | self => exact deeper
  | inner forwards _ inductionHypothesis => exact .inner forwards (inductionHypothesis deeper)

section Pair

variable {chronicle : Chronicle Unit} {run inner : Nat}

theorem Chronicle.Nests.eq_of_pair
    (receivers : (chronicle.pool.host.runs.map Run.receiver).toList =
      [.code fun _ => Code.unit, .forward ⟨0, 1⟩])
    (nests : chronicle.Nests 0 inner) : inner = 0 ∨ inner = 1 := by
  have forwards {nested : Nat} {completer : Completer}
      (known : receiverOf chronicle.pool.host.runs nested = some (.forward completer)) :
      nested = 1 ∧ completer = ⟨0, 1⟩ := by
    rw [receiverOf, ← Array.getElem?_map, ← Array.getElem?_toList, receivers] at known
    rcases nested with _ | _ | nested
    · cases known
    · cases known
      exact ⟨rfl, rfl⟩
    · cases known
  cases nests with
  | self => exact .inl rfl
  | inner first deeper =>
      obtain ⟨rfl, _⟩ := forwards first
      cases deeper with
      | self => exact .inr rfl
      | inner second _ => cases (forwards second).2

def Record.maker? (record : Record Unit) : Option Maker :=
  match record.happening with
  | .attempted _ _ maker => if record.run = 0 then some maker else none
  | _ => none

theorem Chronicle.Orderly.of_makers
    (looks : Standing.Looks (fun _ => false) (course 0 chronicle.history))
    (makers : chronicle.history.filterMap Record.maker? = [.run]) :
    chronicle.Orderly (fun _ => false) (fun _ => none) 0 where
  looks := looks
  settled := by simp
  forwarded := by
    intro epoch registration token pending thread outcome maker _ _ tried
    have listed : maker ∈ chronicle.history.filterMap Record.maker? :=
      List.mem_filterMap.2 ⟨_, tried, rfl⟩
    rw [makers] at listed
    rw [List.mem_singleton.1 listed]
    exact Maker.noConfusion

end Pair

section Residue

def registerResidue (_token : Token) (completer : Completer) : Code Unit .unit :=
  .complete completer (.ok (.datum .null)) fun _ => Code.unit

def thunkResidue (_unit : Unit) : Code Unit .plan := Code.plan (.async (.calling registerResidue))

def answerResidue (_value : Value) : Code Unit .value := Code.value (.datum (.bool true))

/-- A plan with a boundary, and with a frame that is pending there. -/
def Plan.residue : Plan Unit := .map (.suspend thunkResidue) answerResidue

def pendingResidue : Stack (Frame Unit) := ⟨some (.map answerResidue), #[]⟩

def Chronicle.residueRun : Chronicle Unit :=
  (Pool.opening () Plan.residue.alone).chronicle (List.replicate 16 0)

def innerResidue : List (Happening Unit) :=
  [.looked .uncancelable false,
    .reached 1 (.calling registerResidue) .uncancelable pendingResidue,
    .crossed 1 (.completed (.datum .null)), .looked .uncancelable false,
    .called (.mapping answerResidue (.datum .null)) .uncancelable,
    .answered (.value (.datum (.bool true))), .looked .uncancelable false,
    .told (.completed (.datum (.bool true)))]

def steppedResidue : List (Happening Unit) :=
  [.looked .uncancelable false, .looked .uncancelable false,
    .called (.suspended thunkResidue) .uncancelable,
    .answered (.plan (.async (.calling registerResidue)))]

theorem course_residueRun :
    course 0 Chronicle.residueRun.history =
      .started .residue {} .uncancelable (.code fun _ => Code.unit) ::
        (steppedResidue ++ innerResidue) := by
  cbv

theorem alone_residueRun :
    (Chronicle.residueRun.pool.host.runs.all fun entry => !entry.receiver.isForward) = true := by
  cbv

theorem orderly_residueRun (inner : Nat) (nests : Chronicle.residueRun.Nests 0 inner) :
    Chronicle.residueRun.Orderly (fun _ => false) (fun _ => none) inner :=
  Chronicle.orderly_of_alone alone_residueRun course_residueRun rfl inner nests

def likenessResidue : Likeness Unit :=
  .among (· ∈ [.suspending thunkResidue, .naming Code.panicked, .registering registerResidue,
    .mapping answerResidue])

theorem plans_registering_residue : likenessResidue.Plans (.async (.calling registerResidue))
    (.async (.calling registerResidue)) :=
  .calling rfl ⟨rfl, by simp⟩

theorem plans_residue : likenessResidue.Plans .residue .residue :=
  .sequencing rfl rfl (.map ⟨rfl, by simp⟩) (.suspendWith ⟨rfl, by simp⟩ ⟨rfl, by simp⟩)

theorem determined_residue (chosen chosen' : Plan Unit → Context Unit → Bool) :
    likenessResidue.Determined (Reply.without chosen) (Reply.without chosen') := by
  refine Likeness.determined_of_answers fun call call' calls => ?_
  cases calls with
  | suspended functions =>
      obtain ⟨same, member⟩ := functions
      obtain rfl : _ = thunkResidue := by simpa using member
      cases same
      exact ⟨_, _, rfl, rfl, .answered (.plan plans_registering_residue)⟩
  | naming functions panics =>
      obtain ⟨same, member⟩ := functions
      obtain rfl : _ = Code.panicked := by simpa using member
      cases same
      exact ⟨_, _, rfl, rfl, .answered (.failure (.panicked panics))⟩
  | mapping functions =>
      obtain ⟨same, member⟩ := functions
      obtain rfl : _ = answerResidue := by simpa using member
      cases same
      exact ⟨_, _, rfl, rfl, .answered (.value .datum)⟩
  | delayed functions | continuing functions | handling functions | switching functions
  | restoring functions => simp [likenessResidue, Likeness.among] at functions

end Residue

end Trampoline
