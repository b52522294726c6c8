import Trampoline.Proofs.Timing

/-!
The boundaries of programs that are alike have the same numbers.

A run numbers its boundaries in the order in which it reaches them.  Runs of programs that are alike
reach boundaries that are alike in the same order, so the registrations that they call are given the
same numbers; where a nested run stands for a boundary, it numbers its own.  As with what runs show,
this is as far as both go, and one that has told an outcome has reached all that the other has.
-/

namespace Trampoline

variable {Memory : Type}

def Happening.epoch? : Happening Memory → Option Nat
  | .reached epoch _ _ _ => some epoch
  | _ => none

/-- The numbers that registrations are given, with those of nested runs in place. -/
def Happening.numbers (inside : Nat → List Nat) : Happening Memory → List Nat
  | .reached epoch registration _ _ => if registration.isNested then inside epoch else [epoch]
  | _ => []

/-- The boundaries of a run are numbered in order, after so many. -/
def Numbered (before : Nat) (happenings : List (Happening Memory)) : Prop :=
  ∃ count, happenings.filterMap Happening.epoch? = List.range' (before + 1) count

section Numbered

variable {before epoch : Nat} {happenings rest : List (Happening Memory)}

theorem Happening.numbers_eq_nil (inside : Nat → List Nat)
    (inner : ∀ happening ∈ happenings, happening.isPassage = false) :
    happenings.flatMap (numbers inside) = [] := by
  rw [List.flatMap_eq_nil_iff]
  intro happening member
  have quiet := inner happening member
  cases happening <;> first | rfl | cases quiet

theorem Happening.numbers_reached (inside : Nat → List Nat) {current token : Token} {found : Bool}
    {registration : Registration Memory} {saved : Stack (Frame Memory)} :
    (.looked current found :: .reached epoch registration token saved :: rest).flatMap
        (numbers inside) =
      (if registration.isNested then inside epoch else [epoch]) ++ rest.flatMap (numbers inside) :=
  rfl

theorem Happening.numbers_crossed (inside : Nat → List Nat) {outcome : Outcome Value} :
    (.crossed epoch outcome :: rest).flatMap (numbers inside) = rest.flatMap (numbers inside) :=
  rfl

theorem Numbered.append_iff (inner : ∀ happening ∈ happenings, happening.isPassage = false) :
    Numbered before (happenings ++ rest) ↔ Numbered before rest := by
  have none : happenings.filterMap Happening.epoch? = [] := by
    rw [List.filterMap_eq_nil_iff]
    intro happening member
    have quiet := inner happening member
    cases happening <;> first | rfl | cases quiet
  rw [Numbered, Numbered, List.filterMap_append, none, List.nil_append]

theorem Numbered.of_reached {current token : Token} {found : Bool}
    {registration : Registration Memory} {saved : Stack (Frame Memory)}
    (numbered : Numbered before
      (.looked current found :: .reached epoch registration token saved :: rest)) :
    epoch = before + 1 ∧ Numbered (before + 1) rest := by
  obtain ⟨count, listed⟩ := numbered
  cases count with
  | zero => cases listed
  | succ count =>
      injection listed with first later
      exact ⟨first, count, later⟩

theorem Numbered.of_crossed {outcome : Outcome Value}
    (numbered : Numbered before (.crossed epoch outcome :: rest)) : Numbered before rest :=
  numbered

theorem Chronicle.Reachable.numbered {chronicle : Chronicle Memory}
    (reachable : chronicle.Reachable) (run : Nat) : Numbered 0 (course run chronicle.history) := by
  refine ⟨_, Eq.trans ?_ (reachable.holds.ledger run).numbered⟩
  rw [course, recordsOf, reaches, List.filterMap_filterMap, List.filterMap_filter,
    List.map_filterMap]
  apply List.filterMap_congr
  intro record _
  obtain ⟨other, thread, happening⟩ := record
  by_cases same : other = run
  · cases happening <;> simp [same, Happening.isStep, Happening.epoch?, Record.reach?]
  · simp [same]

end Numbered

/-- Numbers are the same as far as both go; neither go on where the others are all. -/
structure NumberedAlike (numbers others : List Nat) (told told' : Option (Outcome Value)) :
    Prop where
  together : numbers <+: others ∨ others <+: numbers
  first : told.isSome = true → others <+: numbers
  second : told'.isSome = true → numbers <+: others

namespace NumberedAlike

variable {numbers others rest rest' : List Nat} {told told' : Option (Outcome Value)}

theorem nil_left : NumberedAlike [] others none told' :=
  ⟨.inl List.nil_prefix, nofun, fun _ => List.nil_prefix⟩

theorem nil_right : NumberedAlike numbers [] told none :=
  ⟨.inr List.nil_prefix, fun _ => List.nil_prefix, nofun⟩

theorem append (same : numbers = others) (later : NumberedAlike rest rest' told told') :
    NumberedAlike (numbers ++ rest) (others ++ rest') told told' := by
  subst same
  obtain ⟨together, first, second⟩ := later
  refine ⟨?_, ?_, ?_⟩
  · simpa [List.prefix_append_right_inj] using together
  · simpa [List.prefix_append_right_inj] using first
  · simpa [List.prefix_append_right_inj] using second

theorem wait (nested : NumberedAlike numbers others told told') :
    NumberedAlike numbers others none none :=
  ⟨nested.together, nofun, nofun⟩

theorem wait_left {other : Outcome Value}
    (nested : NumberedAlike numbers others told (some other)) :
    NumberedAlike numbers (others ++ rest) none told' := by
  have shorter : numbers <+: others ++ rest :=
    (nested.second rfl).trans (List.prefix_append others rest)
  exact ⟨.inl shorter, nofun, fun _ => shorter⟩

theorem wait_right {outcome : Outcome Value}
    (nested : NumberedAlike numbers others (some outcome) told') :
    NumberedAlike (numbers ++ rest) others told none := by
  have shorter : others <+: numbers ++ rest :=
    (nested.first rfl).trans (List.prefix_append numbers rest)
  exact ⟨.inr shorter, fun _ => shorter, nofun⟩

theorem eq_of_told {outcome other : Outcome Value}
    (nested : NumberedAlike numbers others (some outcome) (some other)) : numbers = others :=
  (nested.second rfl).eq_of_length_le (nested.first rfl).length_le

theorem forget {known known' : Option (Outcome Value)}
    (alike : NumberedAlike numbers others told told') (left : known = none ∨ known = told)
    (right : known' = none ∨ known' = told') : NumberedAlike numbers others known known' := by
  obtain ⟨together, first, second⟩ := alike
  refine ⟨together, ?_, ?_⟩
  · rcases left with rfl | rfl
    · simp
    · exact first
  · rcases right with rfl | rfl
    · simp
    · exact second

end NumberedAlike

/-- What is known of the nested runs for the boundaries of a run. -/
structure Insides (Memory : Type) where
  moments : Registration Memory → Nat → Token → List (Moment Memory)
  told : Nat → Option (Outcome Value)
  numbers : Nat → List Nat

namespace Likeness

/-- Nested runs number alike wherever two runs are at boundaries for them that are alike. -/
def NumbersInside (likeness : Likeness Memory) (insides insides' : Insides Memory)
    (happenings happenings' : List (Happening Memory)) : Prop :=
  ∀ epoch registration registration' token pending pending',
    .reached epoch registration token pending ∈ happenings →
    .reached epoch registration' token pending' ∈ happenings' →
      registration.isNested = true →
      likeness.Plans (.async registration) (.async registration') →
      likeness.Consistent (insides.moments registration epoch token)
        (insides'.moments registration' epoch token) →
      NumberedAlike (insides.numbers epoch) (insides'.numbers epoch) (insides.told epoch)
        (insides'.told epoch)

/-- What happens to two runs of programs that are alike, after so many boundaries. -/
structure Abreast (likeness : Likeness Memory) (canceled : Token → Bool)
    (insides insides' : Insides Memory) (before : Nat)
    (happenings happenings' : List (Happening Memory)) : Prop where
  bridged : Standing.Bridged canceled (fun _ => none) insides.told happenings
  bridged' : Standing.Bridged canceled (fun _ => none) insides'.told happenings'
  hops : likeness.Hops insides.moments insides'.moments insides.told insides'.told happenings
    happenings'
  inner : likeness.NumbersInside insides insides' happenings happenings'
  numbered : Numbered before happenings
  numbered' : Numbered before happenings'

variable {likeness : Likeness Memory} {canceled : Token → Bool} {insides insides' : Insides Memory}
  {before : Nat} {happenings happenings' : List (Happening Memory)}

theorem Abreast.beyond
    (abreast : likeness.Abreast canceled insides insides' before happenings happenings')
    {rest rest' : List (Happening Memory)} {later : Nat} (subset : rest ⊆ happenings)
    (subset' : rest' ⊆ happenings') (numbered : Numbered later rest)
    (numbered' : Numbered later rest') :
    likeness.Abreast canceled insides insides' later rest rest' where
  bridged := abreast.bridged.mono subset
  bridged' := abreast.bridged'.mono subset'
  hops := abreast.hops.mono subset subset'
  inner _ _ _ _ _ _ reached reached' :=
    abreast.inner _ _ _ _ _ _ (subset reached) (subset' reached')
  numbered := numbered
  numbered' := numbered'

theorem Abreast.nested {epoch epoch' : Nat} {registration registration' : Registration Memory}
    {token : Token} {saved saved' : Stack (Frame Memory)} {rest rest' : List (Happening Memory)}
    (abreast : likeness.Abreast canceled insides insides' before
      (.looked token false :: .reached epoch registration token saved :: rest)
      (.looked token false :: .reached epoch' registration' token saved' :: rest'))
    (isNested : registration.isNested = true) (isNested' : registration'.isNested = true)
    (plans : likeness.Plans (.async registration) (.async registration'))
    (consistent : likeness.Consistent
      (transcript (fun _ => false) insides.moments none
        (.looked token false :: .reached epoch registration token saved :: rest))
      (transcript (fun _ => false) insides'.moments none
        (.looked token false :: .reached epoch' registration' token saved' :: rest'))) :
    epoch = before + 1 ∧ epoch' = before + 1 ∧
      likeness.InStep (insides.moments registration (before + 1) token)
        (insides'.moments registration' (before + 1) token) (insides.told (before + 1))
        (insides'.told (before + 1)) ∧
      NumberedAlike (insides.numbers (before + 1)) (insides'.numbers (before + 1))
        (insides.told (before + 1)) (insides'.told (before + 1)) := by
  rw [transcript_reached_nested _ _ isNested, transcript_reached_nested _ _ isNested'] at consistent
  obtain ⟨rfl, _⟩ := abreast.numbered.of_reached
  obtain ⟨rfl, _⟩ := abreast.numbered'.of_reached
  refine ⟨rfl, rfl, ?_, ?_⟩
  · exact abreast.hops _ _ _ _ _ _ _ (.tail _ (.head _)) (.tail _ (.head _)) isNested plans
      consistent.of_append
  · exact abreast.inner _ _ _ _ _ _ (.tail _ (.head _)) (.tail _ (.head _)) isNested plans
      consistent.of_append

def StayNumbered (likeness : Likeness Memory) (canceled : Token → Bool)
    (insides insides' : Insides Memory) (count count' : Nat) : Prop :=
  ∀ before standing standing' happenings happenings' goal goal',
    likeness.Standings standing standing' →
    Standing.Path count standing happenings goal →
    Standing.Path count' standing' happenings' goal' →
    likeness.Abreast canceled insides insides' before happenings happenings' →
    likeness.Consistent (transcript (fun _ => false) insides.moments none happenings)
      (transcript (fun _ => false) insides'.moments none happenings') →
    NumberedAlike (happenings.flatMap (Happening.numbers insides.numbers))
      (happenings'.flatMap (Happening.numbers insides'.numbers)) goal.outcome? goal'.outcome?

section Boundaries

variable {pending pending' : List (Frame Memory)} {token : Token} {count count' : Nat}
  {goal goal' : Standing Memory} {registration registration' : Registration Memory}
  {register register' : Token → Completer → Code Memory .unit}
  (later : ∀ fewer fewer', fewer + fewer' < count + count' →
    likeness.StayNumbered canceled insides insides' fewer fewer')
  (abreast : likeness.Abreast canceled insides insides' before happenings happenings')
  (consistent : likeness.Consistent (transcript (fun _ => false) insides.moments none happenings)
    (transcript (fun _ => false) insides'.moments none happenings'))
include later abreast consistent

theorem calling_numberedAlike
    (passing : Standing.Passing (.calling register) pending token count happenings goal)
    (passing' : Standing.Passing (.calling register') pending' token count' happenings' goal')
    (functions : likeness.functions (.registering register) (.registering register'))
    (pendings : likeness.Stacks pending pending') :
    NumberedAlike (happenings.flatMap (Happening.numbers insides.numbers))
      (happenings'.flatMap (Happening.numbers insides'.numbers)) goal.outcome? goal'.outcome? := by
  cases passing with
  | before => exact .nil_left
  | reached =>
      cases passing' with
      | before => exact .nil_right
      | reached | crossed =>
          obtain ⟨rfl, _⟩ := abreast.numbered.of_reached
          obtain ⟨rfl, _⟩ := abreast.numbered'.of_reached
          rw [Happening.numbers_reached, Happening.numbers_reached]
          exact .append rfl .nil_left
  | crossed saved path =>
      cases passing' with
      | before => exact .nil_right
      | reached =>
          obtain ⟨rfl, _⟩ := abreast.numbered.of_reached
          obtain ⟨rfl, _⟩ := abreast.numbered'.of_reached
          rw [Happening.numbers_reached, Happening.numbers_reached]
          exact .append rfl .nil_right
      | crossed saved' path' =>
          rw [transcript_reached_kept _ _ rfl, transcript_crossed_kept _ _ rfl,
            transcript_reached_kept _ _ rfl, transcript_crossed_kept _ _ rfl] at consistent
          obtain ⟨crossed, consistent⟩ := consistent (.reach functions)
          obtain ⟨rfl, numbered⟩ := abreast.numbered.of_reached
          obtain ⟨rfl, numbered'⟩ := abreast.numbered'.of_reached
          rw [Happening.numbers_reached, Happening.numbers_crossed, Happening.numbers_reached,
            Happening.numbers_crossed]
          refine .append rfl ?_
          refine later _ _ (by omega) _ _ _ _ _ _ _ (.after crossed.outcomes pendings token) path path'
            (abreast.beyond ?_ ?_ numbered.of_crossed numbered'.of_crossed) consistent
          · exact List.subset_append_right [_, _, _] _
          · exact List.subset_append_right [_, _, _] _

theorem nested_numberedAlike
    (passing : Standing.Passing registration pending token count happenings goal)
    (passing' : Standing.Passing registration' pending' token count' happenings' goal')
    (isNested : registration.isNested = true) (isNested' : registration'.isNested = true)
    (plans : likeness.Plans (.async registration) (.async registration'))
    (pendings : likeness.Stacks pending pending') :
    NumberedAlike (happenings.flatMap (Happening.numbers insides.numbers))
      (happenings'.flatMap (Happening.numbers insides'.numbers)) goal.outcome? goal'.outcome? := by
  cases passing with
  | before => exact .nil_left
  | reached =>
      cases passing' with
      | before => exact .nil_right
      | reached =>
          obtain ⟨rfl, rfl, _, inner⟩ := abreast.nested isNested isNested' plans consistent
          rw [Happening.numbers_reached, Happening.numbers_reached, if_pos isNested,
            if_pos isNested', List.flatMap_nil, List.flatMap_nil, List.append_nil, List.append_nil]
          exact inner.wait
      | crossed =>
          obtain ⟨rfl, rfl, _, inner⟩ := abreast.nested isNested isNested' plans consistent
          rw [abreast.bridged'.told_eq isNested'] at inner
          rw [Happening.numbers_reached, Happening.numbers_reached, if_pos isNested,
            if_pos isNested', List.flatMap_nil, List.append_nil]
          exact inner.wait_left
  | crossed saved path =>
      cases passing' with
      | before => exact .nil_right
      | reached =>
          obtain ⟨rfl, rfl, _, inner⟩ := abreast.nested isNested isNested' plans consistent
          rw [abreast.bridged.told_eq isNested] at inner
          rw [Happening.numbers_reached, Happening.numbers_reached, if_pos isNested,
            if_pos isNested', List.flatMap_nil, List.append_nil]
          exact inner.wait_right
      | crossed saved' path' =>
          obtain ⟨rfl, rfl, moments, inner⟩ := abreast.nested isNested isNested' plans consistent
          rw [abreast.bridged.told_eq isNested, abreast.bridged'.told_eq isNested'] at moments inner
          rw [transcript_reached_nested _ _ isNested, transcript_crossed_nested _ _ isNested,
            transcript_reached_nested _ _ isNested', transcript_crossed_nested _ _ isNested']
            at consistent
          have beyond := consistent.beyond moments.together
            (Nat.le_antisymm (moments.second rfl) (moments.first rfl))
          rw [Happening.numbers_reached, Happening.numbers_crossed, Happening.numbers_reached,
            Happening.numbers_crossed, if_pos isNested, if_pos isNested']
          refine .append inner.eq_of_told ?_
          refine later _ _ (by omega) _ _ _ _ _ _ _
            (.after (moments.outcomes _ _ rfl rfl) pendings token) path path'
            (abreast.beyond ?_ ?_ abreast.numbered.of_reached.2.of_crossed
              abreast.numbered'.of_reached.2.of_crossed) beyond
          · exact List.subset_append_right [_, _, _] _
          · exact List.subset_append_right [_, _, _] _

theorem inner_numberedAlike {standing standing' : Standing Memory}
    (standings : likeness.Standings standing standing')
    (path : Standing.Path count standing happenings goal)
    (path' : Standing.Path count' standing' happenings' goal')
    (inner : standing.isPassage canceled = false) :
    NumberedAlike (happenings.flatMap (Happening.numbers insides.numbers))
      (happenings'.flatMap (Happening.numbers insides'.numbers)) goal.outcome? goal'.outcome? := by
  rcases standings.outcomes with ⟨outcome, other, rfl, rfl, outcomes⟩ | ⟨running, running'⟩
  · obtain ⟨rfl, rfl⟩ := path.of_ended
    obtain ⟨rfl, rfl⟩ := path'.of_ended
    exact ⟨.inl (List.prefix_refl _), fun _ => List.prefix_refl _, fun _ => List.prefix_refl _⟩
  · cases path with
    | done =>
        rw [running]
        exact .nil_left
    | @step count _ next goal first rest step path =>
        cases path' with
        | done =>
            rw [running']
            exact .nil_right
        | @step count' _ next' goal' first' rest' step' path' =>
            have known := abreast.bridged.mono (List.subset_append_left first rest)
            have known' := abreast.bridged'.mono (List.subset_append_left first' rest')
            have quiet := step.isPassage known.looks inner
            have quiet' := step'.isPassage known'.looks (standings.isPassage inner)
            rw [transcript_append _ _ quiet, transcript_append _ _ quiet'] at consistent
            obtain ⟨together, length, reached⟩ := standings.advance step step' inner known.looks
              known'.looks consistent.of_append
            rw [List.flatMap_append, Happening.numbers_eq_nil _ quiet, List.flatMap_append,
              Happening.numbers_eq_nil _ quiet']
            refine later _ _ (by omega) _ _ _ _ _ _ _ reached path path' (abreast.beyond ?_ ?_
              ((Numbered.append_iff quiet).1 abreast.numbered)
              ((Numbered.append_iff quiet').1 abreast.numbered')) (consistent.beyond together length)
            · exact List.subset_append_right _ _
            · exact List.subset_append_right _ _

end Boundaries

/-- Runs that stand at the same place go on to number alike. -/
theorem stayNumbered (kept : likeness.replaced = fun _ => none) (count count' : Nat) :
    likeness.StayNumbered canceled insides insides' count count' := by
  induction total : count + count' using Nat.strongRecOn generalizing count count' with
  | ind total inductionHypothesis =>
      subst total
      have later (fewer fewer' : Nat) (less : fewer + fewer' < count + count') :
          likeness.StayNumbered canceled insides insides' fewer fewer' :=
        inductionHypothesis _ less fewer fewer' rfl
      intro before standing standing' happenings happenings' goal goal' standings path path' abreast
        consistent
      cases inner : standing.isPassage canceled with
      | false => exact inner_numberedAlike later abreast consistent standings path path' inner
      | true =>
          obtain ⟨token, passages⟩ := standings.passages path path' abreast.bridged.looks
            abreast.bridged'.looks inner
          cases passages with
          | calling passing passing' _ functions pendings =>
              exact calling_numberedAlike later abreast consistent passing passing' functions pendings
          | replaced passing path' known =>
              rw [kept] at known
              cases known
          | nested passing passing' isNested isNested' plans pendings =>
              exact nested_numberedAlike later abreast consistent passing passing' isNested isNested'
                plans pendings

end Likeness

namespace Chronicle

/-- The numbers that a run gives to registrations, with those of nested runs in place; nested runs
start later. -/
def numbers (chronicle : Chronicle Memory) (run : Nat) : List Nat :=
  (course run chronicle.history).flatMap (Happening.numbers fun epoch =>
    match chronicle.innerRun? run epoch with
    | none => []
    | some nested =>
        if _later : run < nested ∧ nested < chronicle.pool.host.runs.size then
          chronicle.numbers nested
        else [])
termination_by chronicle.pool.host.runs.size - run

def insides (chronicle : Chronicle Memory) (run : Nat) : Insides Memory where
  moments := chronicle.inside (fun _ => false) run
  told := chronicle.insideTold run
  numbers epoch :=
    match chronicle.innerRun? run epoch with
    | none => []
    | some nested =>
        if run < nested ∧ nested < chronicle.pool.host.runs.size then chronicle.numbers nested
        else []

theorem numbers_of_started {chronicle : Chronicle Memory} {run : Nat} {plan : Plan Memory}
    {pending : Stack (Frame Memory)} {token : Token} {receiver : Receiver Memory}
    {happenings : List (Happening Memory)}
    (listed : course run chronicle.history = .started plan pending token receiver :: happenings) :
    chronicle.numbers run =
      happenings.flatMap (Happening.numbers (chronicle.insides run).numbers) := by
  rw [numbers, listed]
  rfl

theorem numbers_inside {chronicle : Chronicle Memory} (reachable : chronicle.Reachable)
    {run epoch : Nat} {registration : Registration Memory} {token : Token}
    {pending : Stack (Frame Memory)}
    (reached : .reached epoch registration token pending ∈ course run chronicle.history) :
    (chronicle.insides run).numbers epoch =
      (chronicle.innerRun? run epoch).elim [] chronicle.numbers := by
  dsimp only [insides]
  cases found : chronicle.innerRun? run epoch with
  | none => rfl
  | some nested => exact if_pos (later_of_innerRun? reachable.holds reached found)

section Alike

variable {chronicle chronicle' : Chronicle Memory} {likeness : Likeness Memory}
  {canceled : Token → Bool} {run run' : Nat} {happenings happenings' : List (Happening Memory)}

/-- Runs nested for boundaries with the same number, if they start alike, number alike. -/
def NestedNumberAlike (chronicle chronicle' : Chronicle Memory) (likeness : Likeness Memory)
    (run run' : Nat) : Prop :=
  ∀ epoch token nested nested' plan plan' pending pending',
    receiverOf chronicle.pool.host.runs nested = some (.forward ⟨run, epoch⟩) →
    receiverOf chronicle'.pool.host.runs nested' = some (.forward ⟨run', epoch⟩) →
    run < nested → nested < chronicle.pool.host.runs.size →
    likeness.Plans plan plan' → likeness.Stacks pending.toList pending'.toList →
    (course nested chronicle.history).head? =
      some (.started plan pending token (.forward ⟨run, epoch⟩)) →
    (course nested' chronicle'.history).head? =
      some (.started plan' pending' token (.forward ⟨run', epoch⟩)) →
    likeness.Consistent (chronicle.transcript (fun _ => false) nested)
      (chronicle'.transcript (fun _ => false) nested') →
    NumberedAlike (chronicle.numbers nested) (chronicle'.numbers nested') (chronicle.told nested)
      (chronicle'.told nested')

theorem LeavesTo.numberedAlike {epoch epoch' : Nat} {taking taking' : Option (Reply Memory)}
    {nested? nested?' : Option Nat} {told told' : Option (Outcome Value)}
    (leaves : chronicle.LeavesTo run epoch taking nested? told)
    (leaves' : chronicle'.LeavesTo run' epoch' taking' nested?' told')
    (agree : ∀ reply ∈ taking, ∀ reply' ∈ taking', likeness.Replies reply reply')
    (taken : ∀ nested nested',
      nestedRun? chronicle.pool.host.runs ⟨run, epoch⟩ = some nested →
      nestedRun? chronicle'.pool.host.runs ⟨run', epoch'⟩ = some nested' →
      likeness.Consistent (chronicle.transcript (fun _ => false) nested)
        (chronicle'.transcript (fun _ => false) nested') →
      NumberedAlike (chronicle.numbers nested) (chronicle'.numbers nested') (chronicle.told nested)
        (chronicle'.told nested'))
    (consistent : likeness.Consistent
      (nested?.elim [] (chronicle.transcript fun _ => false))
      (nested?'.elim [] (chronicle'.transcript fun _ => false))) :
    NumberedAlike (nested?.elim [] chronicle.numbers) (nested?'.elim [] chronicle'.numbers) told
      told' := by
  cases leaves with
  | waiting => exact .nil_left
  | refused refused =>
      cases leaves' with
      | waiting => exact .nil_right
      | refused refused' => exact ⟨.inl (List.prefix_refl _), fun _ => List.prefix_refl _,
          fun _ => List.prefix_refl _⟩
      | taken refused' found' => cases agree _ rfl _ rfl
  | taken refused found =>
      cases leaves' with
      | waiting => exact .nil_right
      | refused refused' => cases agree _ rfl _ rfl
      | taken refused' found' => exact taken _ _ found found' consistent

variable (reachable : chronicle.Reachable) (reachable' : chronicle'.Reachable)
include reachable reachable'

theorem numbersInside_of_nested (within : happenings ⊆ course run chronicle.history)
    (within' : happenings' ⊆ course run' chronicle'.history)
    (inner : chronicle.NestedNumberAlike chronicle' likeness run run') :
    likeness.NumbersInside (chronicle.insides run) (chronicle'.insides run') happenings
      happenings' := by
  intro epoch registration registration' token saved saved' reached reached' isNested alike inside
  have consistent : likeness.Consistent
      (chronicle.inside (fun _ => false) run registration epoch token)
      (chronicle'.inside (fun _ => false) run' registration' epoch token) := inside
  rw [Chronicle.inside, Chronicle.inside, inner_eq reachable.holds _ (within reached),
    inner_eq reachable'.holds _ (within' reached')] at consistent
  obtain ⟨agree, nested⟩ := agree_of_hop isNested (reachable.refusal?_of_finishing (within reached))
    (reachable'.refusal?_of_finishing (within' reached')) alike consistent
  rw [numbers_inside reachable (within reached), numbers_inside reachable' (within' reached')]
  refine (chronicle.leavesTo run epoch).numberedAlike (chronicle'.leavesTo run' epoch) agree ?_ nested
  intro nested nested' found found' inside
  obtain ⟨source, source', frames, frames', later, bound, _, _, sources, among, begun, begun'⟩ :=
    startsAlike reachable reachable' (within reached) (within' reached') alike found found'
  exact inner _ _ _ _ _ _ _ _ (receiverOf_of_nestedRun? found) (receiverOf_of_nestedRun? found')
    later bound sources among begun begun' inside

/-- Parts of runs are abreast if those that are nested in the runs number alike. -/
theorem abreast_of_nested (kept : likeness.replaced = fun _ => none)
    (orderly : ∀ inner, chronicle.Nests run inner →
      chronicle.Orderly canceled (fun _ => none) inner)
    (orderly' : ∀ inner, chronicle'.Nests run' inner →
      chronicle'.Orderly canceled (fun _ => none) inner)
    (within : happenings ⊆ course run chronicle.history)
    (within' : happenings' ⊆ course run' chronicle'.history)
    (inner : chronicle.NestedNumberAlike chronicle' likeness run run') {before : Nat}
    (numbered : Numbered before happenings) (numbered' : Numbered before happenings') :
    likeness.Abreast canceled (chronicle.insides run) (chronicle'.insides run') before happenings
      happenings' where
  bridged := bridged reachable.holds (orderly run .self) within
  bridged' := bridged reachable'.holds (orderly' run' .self) within'
  hops := by
    have hops : likeness.Hops (chronicle.inside likeness.hides run)
        (chronicle'.inside (fun _ => false) run') (chronicle.insideTold run)
        (chronicle'.insideTold run') happenings happenings' := by
      refine hops_of_nested reachable reachable' within within' ?_
      intro epoch epoch' registration registration' current saved saved' nested nested' plan plan'
        pending pending' _ _ forwards forwards' _ _ sources among started started'
      have calm (inner : Nat) (nests : chronicle.Nests nested inner) :
          chronicle.Orderly canceled likeness.replaced inner := by
        rw [kept]
        exact orderly inner (.inner forwards nests)
      exact Chronicle.inStep reachable reachable' sources among started started' calm
        fun inner nests => orderly' inner (.inner forwards' nests)
    rw [Likeness.hides_eq_false (congrFun kept)] at hops
    exact hops
  inner := numbersInside_of_nested reachable reachable' within within' inner
  numbered := numbered
  numbered' := numbered'

/-- Runs that start alike number alike, with those that are nested in them. -/
theorem numberedAlike (kept : likeness.replaced = fun _ => none) {plan plan' : Plan Memory}
    {pending pending' : Stack (Frame Memory)} {token : Token} {receiver receiver' : Receiver Memory}
    (plans : likeness.Plans plan plan')
    (pendings : likeness.Stacks pending.toList pending'.toList)
    (started : (course run chronicle.history).head? = some (.started plan pending token receiver))
    (started' : (course run' chronicle'.history).head? =
      some (.started plan' pending' token receiver'))
    (orderly : ∀ inner, chronicle.Nests run inner →
      chronicle.Orderly canceled (fun _ => none) inner)
    (orderly' : ∀ inner, chronicle'.Nests run' inner →
      chronicle'.Orderly canceled (fun _ => none) inner)
    (consistent : likeness.Consistent (chronicle.transcript (fun _ => false) run)
      (chronicle'.transcript (fun _ => false) run')) :
    NumberedAlike (chronicle.numbers run) (chronicle'.numbers run') (chronicle.told run)
      (chronicle'.told run') := by
  induction left : chronicle.pool.host.runs.size - run using Nat.strongRecOn
    generalizing run run' plan plan' pending pending' token receiver receiver' with
  | ind left inductionHypothesis =>
      obtain ⟨happenings, standing, listed, ⟨count, path⟩, _, told⟩ :=
        reachable.holds.tracked.leads_of_started started
      obtain ⟨happenings', standing', listed', ⟨count', path'⟩, _, told'⟩ :=
        reachable'.holds.tracked.leads_of_started started'
      rw [transcript_of_started _ _ listed, transcript_of_started _ _ listed'] at consistent
      rw [numbers_of_started listed, numbers_of_started listed', Chronicle.told, Chronicle.told,
        told, told', Option.head?_toList, Option.head?_toList]
      have numbered := reachable.numbered run
      have numbered' := reachable'.numbered run'
      rw [listed] at numbered
      rw [listed'] at numbered'
      refine Likeness.stayNumbered kept count count' 0 _ _ _ _ _ _ (.iterating plans pendings) path
        path' (abreast_of_nested reachable reachable' kept orderly orderly' ?_ ?_ ?_ numbered numbered')
          consistent
      · rw [listed]
        exact List.subset_cons_self _ _
      · rw [listed']
        exact List.subset_cons_self _ _
      · intro epoch current nested nested' source source' frames frames' forwards forwards' later
          bound sources among begun begun' inside
        refine inductionHypothesis _ ?_ sources among begun begun' ?_ ?_ inside rfl
        · omega
        · intro inner nests
          exact orderly inner (.inner forwards nests)
        · intro inner nests
          exact orderly' inner (.inner forwards' nests)

end Alike

end Chronicle

end Trampoline
