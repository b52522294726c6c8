import Trampoline.Proofs.Determinacy
import Trampoline.Proofs.Uncancelable

/-!
An uncancelable plan masks cancellation, and then lets it through.

Whoever cancels the surrounding token while an uncancelable plan runs, the plan calls the same code
and comes to the same result.  Then the run looks at the surrounding token: it tells cancellation if
that was canceled meanwhile, and otherwise goes on with the result.
-/

namespace Trampoline

variable {Memory : Type}

namespace Standing

variable {standing goal : Standing Memory} {happenings : List (Happening Memory)} {count : Nat}

theorem Step.reached_of_suspended {epoch : Nat} {pending : List (Frame Memory)} {token : Token}
    (step : Step standing happenings (.suspended epoch pending token)) :
    ∃ registration saved, .reached epoch registration token saved ∈ happenings := by
  generalize same : Standing.suspended epoch pending token = next at step
  cases step with
  | reach =>
      cases same
      exact ⟨_, _, .tail _ (.head _)⟩
  | @cross _ _ _ outcome => cases outcome <;> cases same
  | _ => cases same

theorem Path.reached_of_crossed (path : Path count standing happenings goal) {epoch : Nat}
    {outcome : Outcome Value} (crossed : .crossed epoch outcome ∈ happenings) :
    (∃ pending token, standing = .suspended epoch pending token) ∨
      ∃ registration token pending, .reached epoch registration token pending ∈ happenings := by
  induction path with
  | done => cases crossed
  | step step path inductionHypothesis =>
      rcases List.mem_append.1 crossed with here | there
      · cases step with
        | cross =>
            cases List.mem_singleton.1 here
            exact .inl ⟨_, _, rfl⟩
        | _ => simp at here
      · rcases inductionHypothesis there with
          ⟨pending, token, rfl⟩ | ⟨registration, token, saved, reached⟩
        · obtain ⟨registration, saved, reached⟩ := step.reached_of_suspended
          exact .inr ⟨registration, token, saved, List.mem_append_left _ reached⟩
        · exact .inr ⟨registration, token, saved, List.mem_append_right _ reached⟩

end Standing

section Masked

variable {source : Plan Memory} {below : List (Frame Memory)} {token other : Token}
  {region rest : List (Happening Memory)} {result? : Option Result} {result : Result}
  {goal : Standing Memory}

/-- What an uncancelable plan does, it does by itself under the uncancelable token. -/
theorem Masked.lowered (masked : Masked source below token region result? rest goal) :
    ∃ lowered count inner, SameButFrames region lowered ∧
      Standing.Path count (.iterating source [] .uncancelable) lowered inner ∧
        ∀ result, result? = some result → ∃ other, inner = .feeding result [] other := by
  cases masked with
  | inside same leads undecided =>
      obtain ⟨count, path⟩ := leads
      refine ⟨_, count, _, same, path, ?_⟩
      intro result found
      cases found
  | leaving finishes | left finishes leads =>
      obtain ⟨lowered, same, count, path⟩ := finishes
      refine ⟨lowered, count, _, same, path, ?_⟩
      intro result found
      cases found
      exact ⟨_, rfl⟩

theorem uncancelable_of_path {lowered : List (Happening Memory)} {count : Nat}
    {inner : Standing Memory} (same : SameButFrames region lowered)
    (path : Standing.Path count (.iterating source [] .uncancelable) lowered inner)
    (answered : Answered region) (masks : OnlyMasks region) :
    Unconcerned region ∧ ∀ token, inner.token? = some token → token = .uncancelable := by
  have begins : Standing.Uncancelable [] (.iterating source [] .uncancelable) :=
    ⟨fun token active => (Option.some.inj active).symm, .inl rfl⟩
  have kept := path.uncancelable begins (same.answered answered) (same.onlyMasks masks)
  exact ⟨same.symm.unconcerned kept.1, kept.2⟩

theorem Plan.Finishes.other_eq (finishes : source.Finishes .uncancelable region result other)
    (answered : Answered region) (masks : OnlyMasks region) : other = .uncancelable := by
  obtain ⟨lowered, same, count, path⟩ := finishes
  exact (uncancelable_of_path same path answered masks).2 other rfl

end Masked

namespace Chronicle

/-- A run that has come into an uncancelable plan after so much has happened to it: what the plan has
done, without switches of its own, its result if there is one yet, and what has happened since. -/
structure Masks (chronicle : Chronicle Memory) (run : Nat) (source : Plan Memory)
    (below : List (Frame Memory)) (token : Token) (early region : List (Happening Memory))
    (result? : Option Result) (rest : List (Happening Memory)) : Prop where
  happens : course run chronicle.history = early ++ (opening token ++ region ++ rest)
  masked : ∃ goal, chronicle.pool.situation.standings run = [goal] ∧
    Masked source below token region result? rest goal
  confined : chronicle.Confined run region
  nested : ∀ epoch registration current saved nested inner,
    .reached epoch registration current saved ∈ region →
    receiverOf chronicle.pool.host.runs nested = some (.forward ⟨run, epoch⟩) →
    chronicle.Nests nested inner → chronicle.Confined inner (course inner chronicle.history)

namespace Masks

variable {chronicle : Chronicle Memory} (reachable : chronicle.Reachable) {run : Nat}
  {source : Plan Memory} {below : List (Frame Memory)} {token : Token}
  {early region rest : List (Happening Memory)} {result? : Option Result}
  (masks : chronicle.Masks run source below token early region result? rest)

include masks in
theorem subset : region ⊆ course run chronicle.history := by
  rw [masks.happens]
  intro happening member
  exact List.mem_append_right _ (List.mem_append_left _ (List.mem_append_right _ member))

include reachable masks

theorem answered : Answered region := by
  have whole := reachable.answered run
  rw [masks.happens] at whole
  exact whole.of_append.of_append_left.of_append

theorem exchanges : Exchanges (Query.May id) none (chronicle.shows run region) := by
  have listed : course run chronicle.history =
      (early ++ [.looked token false, .called (.switching mask token) token]) ++
        .answered (.token .uncancelable) :: (region ++ rest) := by
    simpa [opening] using masks.happens
  exact reachable.exchanges_shows listed rfl rfl

theorem unconcerned : Unconcerned region := by
  obtain ⟨goal, _, masked⟩ := masks.masked
  obtain ⟨lowered, count, inner, same, path, _⟩ := masked.lowered
  exact (uncancelable_of_path same path (masks.answered reachable) masks.confined.masks).1

theorem looks : Standing.Looks (fun _ => false) region :=
  reachable.looks_of_unconcerned (masks.unconcerned reachable) masks.subset

theorem orderly {epoch nested inner : Nat} {registration : Registration Memory} {current : Token}
    {saved : Stack (Frame Memory)} (reached : .reached epoch registration current saved ∈ region)
    (forwards : receiverOf chronicle.pool.host.runs nested = some (.forward ⟨run, epoch⟩))
    (nests : chronicle.Nests nested inner) :
    chronicle.Orderly (fun _ => false) (fun _ => none) inner := by
  obtain ⟨registration', saved', plan, pending, token', reached', _, _, started⟩ :=
    reachable.started_of_forward forwards
  obtain ⟨rfl, rfl⟩ := reachable.holds.ledger.reached_eq (masks.subset reached) reached'
  obtain rfl := masks.unconcerned reachable _ reached current rfl
  exact reachable.orderly_of_nests nests started fun inner =>
    masks.nested epoch registration .uncancelable saved nested inner reached forwards

theorem crossed_notMem (epoch : Nat) : .crossed epoch .canceled ∉ region := by
  intro crossed
  obtain ⟨goal, _, masked⟩ := masks.masked
  obtain ⟨lowered, count, inner, same, path, _⟩ := masked.lowered
  have listed : .crossed epoch .canceled ∈ lowered := same.mem crossed (by simp)
  rcases path.reached_of_crossed listed with ⟨_, _, begins⟩ | ⟨registration, current, saved, reached⟩
  · cases begins
  · obtain ⟨saved', reached'⟩ := same.symm.reached reached
    obtain ⟨nested, forwards, told⟩ := reachable.forwarded (masks.subset crossed)
    obtain ⟨inner, canceled, nests, looked⟩ := (reachable.notices told).looked
    have found := (masks.orderly reachable reached' forwards nests).looks canceled true looked
    cases found

theorem not_ended (outcome : Outcome Value) :
    ¬ Masked source below token region none rest (.ended outcome) := by
  intro masked
  generalize same : Standing.ended outcome = goal at masked
  cases masked with
  | @inside lowered inner alike leads undecided =>
      obtain ⟨count, path⟩ := leads
      cases inner <;> cases same
      have canceled : outcome = .canceled := by cases outcome <;> first | rfl | cases undecided
      subst canceled
      have told : .canceled ∈ lowered.filterMap Happening.told? := by
        rw [path.tellings rfl]
        exact .head _
      obtain ⟨happening, listed, ends⟩ := List.mem_filterMap.1 told
      obtain rfl : happening = .told .canceled := by cases happening <;> cases ends; rfl
      rcases path.canceled_cases listed with begins | ⟨current, looked⟩ | ⟨epoch, crossed⟩
      · cases begins
      · cases masks.looks reachable current true (alike.symm.mem looked (by simp))
      · exact masks.crossed_notMem reachable epoch (alike.symm.mem crossed (by simp))

theorem bridged {lowered : List (Happening Memory)} (lowers : Lowers region lowered) :
    Standing.Bridged (fun _ => false) (fun _ => none) (chronicle.insideTold run) lowered where
  looks canceled found member :=
    masks.looks reachable canceled found (lowers.mem member (by simp) (by simp))
  settled := by
    intro _ _ _ _ _ _ _ _ known
    cases known
  forwarded := by
    intro epoch registration current saved outcome reached crossed isNested
    obtain ⟨saved', reached'⟩ := lowers.reached reached
    have crossed' := masks.subset (lowers.mem crossed (by simp) (by simp))
    exact insideTold_of_maker reachable.holds crossed' fun thread maker =>
      masks.confined.forwarded epoch registration current saved' thread outcome maker reached' isNested

omit reachable in
/-- What an uncancelable plan does by itself, with the end that its result would be for a run. -/
theorem concluded : ∃ lowered count inner, Lowers region lowered ∧
    Standing.Path count (.iterating source [] .uncancelable) lowered inner ∧
      (result?.map Outcome.ofResult = none ∨
        result?.map Outcome.ofResult = inner.outcome?) := by
  obtain ⟨goal, _, masked⟩ := masks.masked
  obtain ⟨lowered, count, inner, same, path, finished⟩ := masked.lowered
  cases result? with
  | none =>
      exact ⟨lowered, count, inner, .untold same, path, .inl rfl⟩
  | some result =>
      obtain ⟨other, rfl⟩ := finished result rfl
      have concluded := path.trans (.one .conclude)
      rw [List.append_nil] at concluded
      exact ⟨_, _, _, .told same, concluded.trans (.one .tell), .inr rfl⟩

end Masks

section InStep

variable {chronicle chronicle' : Chronicle Memory} {likeness : Likeness Memory} {run run' : Nat}
  {source source' : Plan Memory} {below below' : List (Frame Memory)} {token token' : Token}
  {early early' region region' rest rest' : List (Happening Memory)}
  {result? result?' : Option Result}

theorem Masks.inStep (reachable : chronicle.Reachable) (reachable' : chronicle'.Reachable)
    (masks : chronicle.Masks run source below token early region result? rest)
    (masks' : chronicle'.Masks run' source' below' token' early' region' result?' rest')
    (kept : likeness.replaced = fun _ => none) (plans : likeness.Plans source source')
    (consistent : likeness.Consistent (chronicle.shows run region) (chronicle'.shows run' region')) :
    likeness.InStep (chronicle.shows run region) (chronicle'.shows run' region')
      (result?.map Outcome.ofResult) (result?'.map Outcome.ofResult) := by
  obtain ⟨lowered, count, inner, lowers, path, told⟩ := masks.concluded
  obtain ⟨lowered', count', inner', lowers', path', told'⟩ := masks'.concluded
  have hops : likeness.Hops (chronicle.inside likeness.hides run)
      (chronicle'.inside (fun _ => false) run') (chronicle.insideTold run)
      (chronicle'.insideTold run') region region' := by
    refine hops_of_nested reachable reachable' masks.subset masks'.subset ?_
    intro epoch epoch' registration registration' current saved saved' nested nested' plan plan'
      pending pending' reached reached' forwards forwards' _ _ sources among started started'
    have orderly (inner : Nat) (nests : chronicle.Nests nested inner) :
        chronicle.Orderly (fun _ => false) likeness.replaced inner := by
      rw [kept]
      exact masks.orderly reachable reached forwards nests
    exact Chronicle.inStep reachable reachable' sources among started started' orderly
      fun inner => masks'.orderly reachable' reached' forwards'
  have bridged := masks.bridged reachable lowers
  rw [← kept] at bridged
  have stays := Likeness.stayInStep count count' _ _ _ _ _ _ (.iterating plans .nil) path path' bridged
    (masks'.bridged reachable' lowers') (hops.of_lowers lowers lowers')
  rw [Likeness.hides_eq_false (congrFun kept), lowers.transcript_eq, lowers'.transcript_eq] at stays
  exact (stays consistent).forget told told'

end InStep

/-- The surrounding token as a run finds it with the result of an uncancelable plan: canceled if it
was canceled before, whenever that was, and then the run stops. -/
structure Departs (chronicle : Chronicle Memory) (later : List Nat) (run : Nat)
    (below : List (Frame Memory)) (token : Token) (before : List (Happening Memory)) (result : Result)
    (found : Bool) (more : List (Happening Memory)) : Prop where
  canceled : ∀ during after, later = during ++ after →
    (chronicle.after during).pool.host.tokens.isCanceled token = true →
    course run (chronicle.after during).history <+: course run chronicle.history ++ before →
      found = true
  live : (chronicle.after later).pool.host.tokens.isCanceled token = false → found = false
  stops : found = true → (more = [] ∨ more = [.told .canceled]) ∧
    ((chronicle.after later).pool.rests run = true → more = [.told .canceled])
  goesOn : found = false → ∃ goal, (chronicle.after later).pool.situation.standings run = [goal] ∧
    Standing.Leads (.feeding result below token) more goal

/-- A run waits at a boundary of an uncancelable plan, or it looks at the surrounding token. -/
structure LetsThrough (chronicle : Chronicle Memory) (later : List Nat) (run : Nat)
    (below : List (Frame Memory)) (token : Token) (region : List (Happening Memory))
    (result? : Option Result) (rest : List (Happening Memory)) : Prop where
  waits : (chronicle.after later).pool.rests run = true → result? = none →
    (chronicle.after later).Resumable run
  looks : (chronicle.after later).pool.rests run = true → ∀ result, result? = some result →
    ∃ found more, rest = closing token result .uncancelable ++ .looked token found :: more
  departs : ∀ result found more, result? = some result →
    rest = closing token result .uncancelable ++ .looked token found :: more →
      chronicle.Departs later run below token
        (opening token ++ region ++ closing token result .uncancelable) result found more

section LetsThrough

variable {chronicle : Chronicle Memory} (reachable : chronicle.Reachable) {later : List Nat}
  {run : Nat} {source : Plan Memory} {below : List (Frame Memory)} {token : Token}
  {region rest : List (Happening Memory)} {result? : Option Result} {result : Result}

include reachable

/-- What happens after a moment at which a token is canceled finds it so. -/
theorem found_of_isCanceled {standing : Standing Memory} {before more : List (Happening Memory)}
    {found : Bool} (stands : chronicle.pool.situation.standings run = [standing])
    (listed : course run (chronicle.after later).history =
      course run chronicle.history ++ before ++ .looked token found :: more)
    (during after : List Nat) (split : later = during ++ after)
    (canceled : (chronicle.after during).pool.host.tokens.isCanceled token = true)
    (early : course run (chronicle.after during).history <+: course run chronicle.history ++ before) :
    found = true := by
  subst split
  obtain ⟨_, middle, first⟩ := reachable.resumes during stands
  obtain ⟨happenings, _, second⟩ := (reachable.after during).resumes after first.stands
  have whole := second.course
  have joined : (chronicle.after during).after after = chronicle.after (during ++ after) :=
    (List.foldl_append ..).symm
  obtain ⟨remaining, between⟩ := early
  rw [joined, listed, ← between, List.append_assoc] at whole
  have same := List.append_cancel_left whole
  exact second.looks token found (by rw [← same]; simp) canceled

/-- An uncancelable plan ends with a result under the uncancelable token. -/
theorem Masks.rest_cases {early : List (Happening Memory)} {goal : Standing Memory}
    (masks : chronicle.Masks run source below token early region (some result) rest)
    (stands : chronicle.pool.situation.standings run = [goal]) :
    (rest = [.called (.restoring unmask result token .uncancelable) .uncancelable] ∧
      goal = .calling (.restoring result) below .uncancelable) ∨
      ∃ more, rest = closing token result .uncancelable ++ more ∧
        Standing.Leads (.iterating (.ofResult result) below token) more goal := by
  obtain ⟨other, stands', masked⟩ := masks.masked
  obtain rfl : goal = other := by
    rw [stands] at stands'
    exact List.singleton_inj.1 stands'
  have answered := masks.answered reachable
  cases masked with
  | leaving finishes =>
      obtain rfl := finishes.other_eq answered masks.confined.masks
      exact .inl ⟨rfl, rfl⟩
  | left finishes leads =>
      obtain rfl := finishes.other_eq answered masks.confined.masks
      exact .inr ⟨_, rfl, leads⟩

theorem Masks.departs {standing : Standing Memory} {found : Bool} {more : List (Happening Memory)}
    (stands : chronicle.pool.situation.standings run = [standing])
    (masks : (chronicle.after later).Masks run source below token (course run chronicle.history) region
      (some result) rest)
    (listed : rest = closing token result .uncancelable ++ .looked token found :: more) :
    chronicle.Departs later run below token
      (opening token ++ region ++ closing token result .uncancelable) result found more := by
  have whole := masks.happens
  rw [listed, ← List.append_assoc, ← List.append_assoc] at whole
  have reachable' := reachable.after later
  refine ⟨?_, ?_, ?_, ?_⟩
  · rw [List.append_assoc (course run chronicle.history)] at whole
    exact found_of_isCanceled reachable stands whole
  · intro live
    by_contra canceled
    obtain rfl : found = true := by simpa using canceled
    have looked : .looked token true ∈ course run (chronicle.after later).history := by
      rw [whole]
      simp
    rw [reachable'.isCanceled_of_looked looked] at live
    cases live
  · rintro rfl
    exact reachable'.stops whole
  · rintro rfl
    obtain ⟨goal, stands', _⟩ := masks.masked
    refine ⟨goal, stands', ?_⟩
    rcases masks.rest_cases reachable' stands' with ⟨leaving, _⟩ | ⟨more', left, leads⟩
    · rw [listed] at leaving
      cases leaving
    · rw [listed] at left
      rw [← List.append_cancel_left left] at leads
      rcases leads.of_result with ⟨none, _⟩ | ⟨_, looked⟩ | ⟨_, looked, feeds⟩
      · cases none
      · cases looked
      · cases looked
        exact feeds

theorem Masks.letsThrough {standing : Standing Memory}
    (stands : chronicle.pool.situation.standings run = [standing])
    (masks : (chronicle.after later).Masks run source below token (course run chronicle.history) region
      result? rest) : chronicle.LetsThrough later run below token region result? rest where
  waits := by
    rintro rests rfl
    obtain ⟨goal, stands', masked⟩ := masks.masked
    rcases (reachable.after later).ended_or_resumable stands' rests with ⟨outcome, rfl⟩ | ⟨resumable, _⟩
    · exact absurd masked (masks.not_ended (reachable.after later) outcome)
    · exact resumable
  looks := by
    rintro rests result rfl
    obtain ⟨goal, stands', _⟩ := masks.masked
    rcases masks.rest_cases (reachable.after later) stands' with ⟨_, rfl⟩ | ⟨more, listed, leads⟩
    · rcases (reachable.after later).ended_or_resumable stands' rests with
        ⟨_, ended⟩ | ⟨_, _, _, _, suspended⟩
      · cases ended
      · cases suspended
    · rcases leads.of_result with ⟨_, rfl⟩ | ⟨_, rfl⟩ | ⟨_, rfl, _⟩
      · rcases (reachable.after later).ended_or_resumable stands' rests with
          ⟨_, ended⟩ | ⟨_, _, _, _, suspended⟩
        · cases ended
        · cases suspended
      · exact ⟨_, _, listed⟩
      · exact ⟨_, _, listed⟩
  departs := by
    rintro result found more rfl listed
    exact masks.departs reachable stands listed

end LetsThrough

end Chronicle

/-- An uncancelable plan masks cancellation: whatever becomes of the surrounding token, uncancelable
plans that are alike call what is alike in the same order and come to results that are alike, if what
they ask alike is replied alike: so if functions reply alike whatever they are told.  Then it lets
cancellation through: the run looks at the surrounding token, tells cancellation and does nothing
else if that is canceled by then, and goes on with the result under that token if not. -/
theorem uncancelable_masks_then_lets_through (likeness : Likeness Memory)
    (kept : likeness.replaced = fun _ => none) (chronicle chronicle' : Chronicle Memory)
    (reachable : chronicle.Reachable) (reachable' : chronicle'.Reachable) (later : List Nat)
    (run run' : Nat) (source source' : Plan Memory) (plans : likeness.Plans source source')
    (below below' : List (Frame Memory)) (token token' : Token) (cancelable : token ≠ .uncancelable)
    (stands : chronicle.pool.situation.standings run =
      [.iterating source.uncancelable below token]) :
    (∃ happenings goal,
      course run (chronicle.after later).history = course run chronicle.history ++ happenings ∧
      (chronicle.after later).pool.situation.standings run = [goal] ∧
      Shielded source below token happenings goal) ∧
    ∀ region result? rest, (chronicle.after later).Masks run source below token
        (course run chronicle.history) region result? rest →
      Unconcerned region ∧
      (∀ early' region' result?' rest',
        chronicle'.Masks run' source' below' token' early' region' result?' rest' →
          likeness.Reliable id id ((chronicle.after later).shows run region)
            (chronicle'.shows run' region') →
          likeness.InStep ((chronicle.after later).shows run region) (chronicle'.shows run' region')
            (result?.map Outcome.ofResult) (result?'.map Outcome.ofResult)) ∧
      chronicle.LetsThrough later run below token region result? rest := by
  have after := reachable.after later
  refine ⟨?_, fun region result? rest masks => ⟨masks.unconcerned after, ?_, ?_⟩⟩
  · obtain ⟨happenings, goal, listed, stands', leads, answered⟩ :=
      reachable.leads_after later stands rfl
    exact ⟨happenings, goal, listed, stands', leads.shielded cancelable answered⟩
  · intro early' region' result?' rest' masks' reliable
    exact masks.inStep after reachable' masks' kept plans
      (reliable.consistent (masks.exchanges after) (masks'.exchanges reachable'))
  · exact masks.letsThrough reachable stands

section Sheltered

def thunkSheltered (token : Token) (_unit : Unit) : Code Bool .value :=
  .ask .recall fun (cancels : Bool) =>
    if cancels then .ask (.cancel token none) fun _ => Code.value (.datum .null)
    else Code.value (.datum .null)

def Plan.sheltered : Plan Bool := .delay (thunkSheltered (.tracked 0))

def nextSheltered (_value : Value) : Code Bool .plan := Code.plan .never

def runSheltered : Code Bool .unit :=
  .ask .newToken fun (token : Token) =>
    .run (.bind Plan.sheltered.uncancelable nextSheltered) token (fun _ => Code.unit) fun _ => Code.unit

def Chronicle.sheltered (cancels : Bool) : Chronicle Bool :=
  (Pool.opening cancels [(none, runSheltered)]).chronicle (List.replicate 3 0)

theorem standings_sheltered :
    (Chronicle.sheltered true).pool.situation.standings 0 =
      [.iterating Plan.sheltered.uncancelable [.bind nextSheltered] (.tracked 0)] := by
  cbv

def Chronicle.shelteredCanceled : Chronicle Bool :=
  (Chronicle.sheltered true).after (List.replicate 12 0)

def Chronicle.shelteredLive : Chronicle Bool :=
  (Chronicle.sheltered false).after (List.replicate 11 0)

def resultSheltered : Result := .ok (.datum .null)

def regionSheltered : List (Happening Bool) :=
  [.looked .uncancelable false, .called (.delayed (thunkSheltered (.tracked 0))) .uncancelable,
    .answered (.value (.datum .null))]

def restSheltered : List (Happening Bool) :=
  [.called (.continuing nextSheltered (.datum .null)) (.tracked 0), .answered (.plan .never),
    .looked (.tracked 0) false, .reached 1 (.calling fun _ _ => Code.unit) (.tracked 0) {}]

theorem course_shelteredCanceled :
    course 0 Chronicle.shelteredCanceled.history =
      course 0 (Chronicle.sheltered true).history ++
        (opening (.tracked 0) ++ regionSheltered ++
          (closing (.tracked 0) resultSheltered .uncancelable ++
            [.looked (.tracked 0) true, .told .canceled])) := by
  cbv

theorem course_shelteredLive :
    course 0 Chronicle.shelteredLive.history =
      course 0 (Chronicle.sheltered false).history ++
        (opening (.tracked 0) ++ regionSheltered ++
          (closing (.tracked 0) resultSheltered .uncancelable ++
            .looked (.tracked 0) false :: restSheltered)) := by
  cbv

theorem standings_shelteredCanceled :
    Chronicle.shelteredCanceled.pool.situation.standings 0 = [.ended .canceled] := by
  cbv

theorem standings_shelteredLive :
    Chronicle.shelteredLive.pool.situation.standings 0 = [.suspended 1 [] (.tracked 0)] := by
  cbv

/-- A run has come to the result of an uncancelable plan that asks for no token and comes to no
boundary. -/
theorem Chronicle.masks_of_path {chronicle : Chronicle Bool} {source : Plan Bool}
    {below : List (Frame Bool)} {token : Token} {result : Result} {count : Nat}
    {early region more : List (Happening Bool)} {goal : Standing Bool}
    (happens : course 0 chronicle.history = early ++ (opening token ++ region ++
      (closing token result .uncancelable ++ more)))
    (stands : chronicle.pool.situation.standings 0 = [goal])
    (leads : Standing.Leads (.iterating (.ofResult result) below token) more goal)
    (path : Standing.Path count (.iterating source [] .uncancelable) region
      (.feeding result [] .uncancelable))
    (plain : region.all (fun happening => !happening.isPassage &&
      happening.call?.all fun call => decide (call.form ≠ .token)) = true) :
    chronicle.Masks 0 source below token early region (some result)
      (closing token result .uncancelable ++ more) := by
  have reaches {epoch : Nat} {registration : Registration Bool} {current : Token}
      {saved : Stack (Frame Bool)}
      (reached : .reached epoch registration current saved ∈ region) : False := by
    simpa [Happening.isPassage] using List.all_eq_true.1 plain _ reached
  refine ⟨happens, ⟨goal, stands, .left ⟨_, .refl _, _, path⟩ leads⟩, ⟨?_, ?_⟩, ?_⟩
  · intro call member asks
    obtain ⟨current, called⟩ := mem_calls_iff.1 member
    simpa [Happening.isPassage, Happening.call?, asks] using List.all_eq_true.1 plain _ called
  · exact fun _ _ _ _ _ _ _ reached => (reaches reached).elim
  · exact fun _ _ _ _ _ _ reached => (reaches reached).elim

theorem masks_sheltered {chronicle : Chronicle Bool} {early more : List (Happening Bool)}
    {goal : Standing Bool}
    (happens : course 0 chronicle.history = early ++ (opening (.tracked 0) ++ regionSheltered ++
      (closing (.tracked 0) resultSheltered .uncancelable ++ more)))
    (stands : chronicle.pool.situation.standings 0 = [goal])
    (leads : Standing.Leads (.iterating (.ofResult resultSheltered) [.bind nextSheltered] (.tracked 0))
      more goal) :
    chronicle.Masks 0 Plan.sheltered [.bind nextSheltered] (.tracked 0) early regionSheltered
      (some resultSheltered) (closing (.tracked 0) resultSheltered .uncancelable ++ more) := by
  have delays : Standing.Path 2 (.iterating Plan.sheltered [] .uncancelable) regionSheltered
      (.feeding resultSheltered [] .uncancelable) :=
    .step .delay (.one .delayAnswer)
  exact Chronicle.masks_of_path happens stands leads delays rfl

def likenessSheltered : Likeness Bool :=
  .among (· ∈ [.delaying (thunkSheltered (.tracked 0)), .naming Code.panicked])

theorem thunkSheltered_ends {token : Token} {ending : Except Payload (Answer Bool .value)}
    (ends : (thunkSheltered token ()).Ends ending) : ending = .ok (.value (.datum .null)) := by
  cases ends with
  | @ask _ _ cancels _ later =>
      cases cancels with
      | true =>
          cases later with
          | ask later =>
              cases later
              rfl
      | false =>
          cases later
          rfl

theorem determined_sheltered : likenessSheltered.Determined id id := by
  intro call call' calls reply reply' may may'
  cases calls with
  | delayed functions =>
      obtain ⟨same, member⟩ := functions
      obtain rfl : _ = thunkSheltered (.tracked 0) := by simpa using member
      cases same
      cases may with
      | panicked ends => cases thunkSheltered_ends ends
      | answered ends =>
          cases may' with
          | panicked ends' => cases thunkSheltered_ends ends'
          | answered ends' =>
              cases thunkSheltered_ends ends
              cases thunkSheltered_ends ends'
              exact .answered (.value .datum)
  | naming functions panics =>
      obtain ⟨same, member⟩ := functions
      obtain rfl : _ = Code.panicked := by simpa using member
      cases same
      cases may.eq_answered rfl
      cases may'.eq_answered rfl
      exact .answered (.failure (.panicked panics))
  | suspended functions | continuing functions | handling functions | mapping functions
  | switching functions | restoring functions =>
      simp [likenessSheltered, Likeness.among] at functions

/-- The thunk cancels the surrounding token or does not: the plan has the same value, and then the
run tells cancellation or goes on. -/
theorem uncancelable_masks_then_lets_through_sheltered :
    .told .canceled ∈ course 0 Chronicle.shelteredCanceled.history ∧
      .called (.continuing nextSheltered (.datum .null)) (.tracked 0) ∈
        course 0 Chronicle.shelteredLive.history ∧
      likenessSheltered.Determined id id ∧
      likenessSheltered.InStep (Chronicle.shelteredCanceled.shows 0 regionSheltered)
        (Chronicle.shelteredLive.shows 0 regionSheltered) (some (.completed (.datum .null)))
        (some (.completed (.datum .null))) ∧
      (Chronicle.sheltered true).LetsThrough (List.replicate 12 0) 0 [.bind nextSheltered]
        (.tracked 0) regionSheltered (some resultSheltered)
        (closing (.tracked 0) resultSheltered .uncancelable ++
          [.looked (.tracked 0) true, .told .canceled]) := by
  have reachable : (Chronicle.sheltered true).Reachable := ⟨_, _, _, rfl⟩
  have reachable' : Chronicle.shelteredLive.Reachable := by
    have begins : (Chronicle.sheltered false).Reachable := ⟨_, _, _, rfl⟩
    exact begins.after _
  have stops : Standing.Path 2
      (.iterating (.ofResult resultSheltered) [.bind nextSheltered] (.tracked 0))
      [.looked (.tracked 0) true, .told .canceled] (.ended .canceled) :=
    .step .stop (.one .tell)
  have reaches : Standing.Step (.iterating .never ({} : Stack (Frame Bool)).toList (.tracked 0))
      [.looked (.tracked 0) false, .reached 1 (.calling fun _ _ => Code.unit) (.tracked 0) {}]
      (.suspended 1 [] (.tracked 0)) := .reach
  have goesOn : Standing.Path 4
      (.iterating (.ofResult resultSheltered) [.bind nextSheltered] (.tracked 0))
      (.looked (.tracked 0) false :: restSheltered) (.suspended 1 [] (.tracked 0)) :=
    .step .pure (.step (.meet rfl) (.step .continueAnswer (.one reaches)))
  have masks := masks_sheltered course_shelteredCanceled standings_shelteredCanceled ⟨_, stops⟩
  have masks' := masks_sheltered course_shelteredLive standings_shelteredLive ⟨_, goesOn⟩
  obtain ⟨_, through⟩ := uncancelable_masks_then_lets_through likenessSheltered rfl
    (Chronicle.sheltered true) Chronicle.shelteredLive reachable reachable' (List.replicate 12 0) 0 0
    Plan.sheltered Plan.sheltered (.delayWith ⟨rfl, by simp⟩ ⟨rfl, by simp⟩) [.bind nextSheltered]
    [.bind nextSheltered] (.tracked 0) (.tracked 0) (by decide) standings_sheltered
  obtain ⟨_, inStep, letsThrough⟩ := through _ _ _ masks
  refine ⟨?_, ?_, determined_sheltered, inStep _ _ _ _ masks' (.inl ⟨determined_sheltered, ?_⟩),
    letsThrough⟩
  · rw [course_shelteredCanceled]
    simp
  · rw [course_shelteredLive]
    simp [restSheltered]
  · exact fun _ => ⟨nofun, fun _ => trivial⟩

end Sheltered

section Polling

def nextPolling (_value : Value) : Code Bool .plan :=
  .ask (.status (.tracked 0)) fun (status : Token.Status) =>
    Code.plan (.pure (.datum (.bool status.canceled)))

def Plan.polling : Plan Bool := .bind Plan.sheltered nextPolling

def runPolling : Code Bool .unit :=
  .ask .newToken fun (token : Token) =>
    .run (.bind Plan.polling.uncancelable nextSheltered) token (fun _ => Code.unit) fun _ => Code.unit

/-- A run that has come through an uncancelable plan which cancels the surrounding token if the memory
says so, and then asks whether it is canceled. -/
def Chronicle.polling (cancels : Bool) : Chronicle Bool :=
  (Pool.opening cancels [(none, runPolling)]).chronicle (List.replicate 24 0)

def resultPolling (canceled : Bool) : Result := .ok (.datum (.bool canceled))

def regionPolling (canceled : Bool) : List (Happening Bool) :=
  [.looked .uncancelable false, .looked .uncancelable false,
    .called (.delayed (thunkSheltered (.tracked 0))) .uncancelable,
    .answered (.value (.datum .null)), .called (.continuing nextPolling (.datum .null)) .uncancelable,
    .answered (.plan (.pure (.datum (.bool canceled)))), .looked .uncancelable false]

def earlyPolling : List (Happening Bool) :=
  [.started (.bind Plan.polling.uncancelable nextSheltered) {} (.tracked 0) (.code fun _ => Code.unit),
    .looked (.tracked 0) false]

theorem course_polling_canceled :
    course 0 (Chronicle.polling true).history =
      earlyPolling ++ (opening (.tracked 0) ++ regionPolling true ++
        (closing (.tracked 0) (resultPolling true) .uncancelable ++
          [.looked (.tracked 0) true, .told .canceled])) := by
  cbv

theorem course_polling_live :
    course 0 (Chronicle.polling false).history =
      earlyPolling ++ (opening (.tracked 0) ++ regionPolling false ++
        (closing (.tracked 0) (resultPolling false) .uncancelable ++
          [.looked (.tracked 0) false,
            .called (.continuing nextSheltered (.datum (.bool false))) (.tracked 0),
            .answered (.plan .never), .looked (.tracked 0) false,
            .reached 1 (.calling fun _ _ => Code.unit) (.tracked 0) {}])) := by
  cbv

theorem standings_polling_canceled :
    (Chronicle.polling true).pool.situation.standings 0 = [.ended .canceled] := by
  cbv

theorem standings_polling_live :
    (Chronicle.polling false).pool.situation.standings 0 = [.suspended 1 [] (.tracked 0)] := by
  cbv

theorem path_polling (canceled : Bool) :
    Standing.Path 6 (.iterating Plan.polling [] .uncancelable) (regionPolling canceled)
      (.feeding (resultPolling canceled) [] .uncancelable) := by
  have meets : Standing.Step (.feeding (.ok (.datum .null)) [.bind nextPolling] .uncancelable)
      [.called (.continuing nextPolling (.datum .null)) .uncancelable]
      (.calling .continuing [] .uncancelable) := .meet rfl
  exact .step (.descend rfl) (.step .delay (.step .delayAnswer (.step meets (.step .continueAnswer
    (.one .pure)))))

/-- A plan that asks whether the surrounding token is canceled comes to another value if it is, though
it is uncancelable. -/
theorem polling_sees_cancellation :
    (Chronicle.polling true).Reachable ∧ (Chronicle.polling false).Reachable ∧
      (∃ rest, (Chronicle.polling true).Masks 0 Plan.polling [.bind nextSheltered] (.tracked 0)
        earlyPolling (regionPolling true) (some (resultPolling true)) rest) ∧
      (∃ rest, (Chronicle.polling false).Masks 0 Plan.polling [.bind nextSheltered] (.tracked 0)
        earlyPolling (regionPolling false) (some (resultPolling false)) rest) ∧
      resultPolling true ≠ resultPolling false := by
  have stops : Standing.Path 2
      (.iterating (.ofResult (resultPolling true)) [.bind nextSheltered] (.tracked 0))
      [.looked (.tracked 0) true, .told .canceled] (.ended .canceled) :=
    .step .stop (.one .tell)
  have reaches : Standing.Step (.iterating .never ({} : Stack (Frame Bool)).toList (.tracked 0))
      [.looked (.tracked 0) false, .reached 1 (.calling fun _ _ => Code.unit) (.tracked 0) {}]
      (.suspended 1 [] (.tracked 0)) := .reach
  have meets : Standing.Step (.feeding (resultPolling false) [.bind nextSheltered] (.tracked 0))
      [.called (.continuing nextSheltered (.datum (.bool false))) (.tracked 0)]
      (.calling .continuing [] (.tracked 0)) := .meet rfl
  have goesOn : Standing.Path 4
      (.iterating (.ofResult (resultPolling false)) [.bind nextSheltered] (.tracked 0)) _
      (.suspended 1 [] (.tracked 0)) :=
    .step .pure (.step meets (.step .continueAnswer (.one reaches)))
  exact ⟨⟨_, _, _, rfl⟩, ⟨_, _, _, rfl⟩,
    ⟨_, Chronicle.masks_of_path course_polling_canceled standings_polling_canceled ⟨_, stops⟩
      (path_polling true) rfl⟩,
    ⟨_, Chronicle.masks_of_path course_polling_live standings_polling_live ⟨_, goesOn⟩
      (path_polling false) rfl⟩, by simp [resultPolling]⟩

end Polling

end Trampoline
