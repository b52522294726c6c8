import Trampoline.Proofs.Answering
import Trampoline.Proofs.Independence
import Trampoline.Proofs.Pacing

/-!
Chronicles of programs that are variations of each other.

A run of one chronicle is compared with a run of another that is started with a variation of its
plan, and so are the runs that are nested in them for boundaries with the same number.  If what the
two are given is in concord, they do alike, and at rest they have done the same.  The induction is
on how many runs started later: what completes the boundary for a nested run is what that run tells.
-/

namespace Trampoline

variable {Memory : Type}

/-- What continuations that are grouped into one end with goes on with the second of them. -/
theorem Code.ends_grouped {first next : Value → Code Memory .plan} {value : Value}
    {plan : Plan Memory} (ends : (grouped first next value).Ends (.ok (.plan plan))) :
    ∃ source, plan = .bind source next ∧ (first value).Ends (.ok (.plan source)) := by
  rcases ends_andThen _ ends with ⟨answer, gives, later⟩ | ⟨_, fails, _⟩
  · cases answer
    cases later
    exact ⟨_, rfl, gives⟩
  · cases fails

theorem Code.ends_panic_of_grouped {first next : Value → Code Memory .plan} {value : Value}
    {payload : Payload} (ends : (grouped first next value).Ends (.error payload)) :
    (first value).Ends (.error payload) := by
  rcases ends_andThen _ ends with ⟨answer, _, later⟩ | ⟨_, same, fails⟩
  · cases answer
    cases later
  · cases same
    exact fails

namespace Variation

/-- Functions that may stand for each other reply alike to arguments that are, whatever their code is
told. -/
def Determined (variation : Variation Memory) : Prop :=
  ∀ call call' : Call Memory, variation.toLikeness.Calls call call' → ∀ happening happening',
    call.Replied happening → call'.Replied happening' → variation.Replies none happening happening'

/-- Then calls for the same are replied to alike, also where a continuation is grouped with another
one or called by a thunk. -/
theorem Determined.replies {variation : Variation Memory} (determined : variation.Determined)
    {call call' : Call Memory} {next? : Option (Value → Code Memory .plan)}
    (calls : variation.Calls call call' next?) {happening happening' : Happening Memory}
    (replied : call.Replied happening) (replied' : call'.Replied happening') :
    variation.Replies next? happening happening' := by
  obtain ⟨reply', shown', may'⟩ := replied'
  cases calls with
  | alike calls => exact determined _ _ calls _ _ replied ⟨reply', shown', may'⟩
  | grouped law firsts values next =>
      cases may' with
      | @answered answer ends =>
          cases answer
          obtain ⟨source, rfl, gives⟩ := Code.ends_grouped ends
          cases happening' <;> cases shown'
          have replies := determined _ _ (.continuing firsts values) _ (.answered (.plan source))
            replied ⟨_, rfl, .answered gives⟩
          cases replies with
          | answered answers =>
              cases answers with
              | plan plans =>
                  refine .grouped fun first same => ?_
                  cases same
                  exact plans
      | panicked ends message =>
          cases happening' <;> cases shown'
          have replies := determined _ _ (.continuing firsts values) _ (.panicked _)
            replied ⟨_, rfl, .panicked (Code.ends_panic_of_grouped ends) message⟩
          cases replies with
          | panicked panics => exact .panicked panics
  | started law functions values =>
      refine determined _ _ (.continuing functions values) _ _ replied ⟨reply', shown', ?_⟩
      cases may' with
      | answered ends => exact .answered ends
      | panicked ends message => exact .panicked ends message

end Variation

theorem Variation.Registrations.due {variation : Variation Memory}
    {registration registration' : Registration Memory}
    (registrations : variation.Registrations registration registration') {token : Token}
    {completer completer' : Completer} {due due' : Due Memory}
    (asked : due ∈ registration.due token completer)
    (asked' : due' ∈ registration'.due token completer') :
    variation.Plans due.plan due'.plan ∧
      variation.Stacks due.pending.toList due'.pending.toList ∧ due.token = due'.token := by
  cases registrations with
  | calling => cases asked
  | hopping sources =>
      cases List.mem_singleton.1 asked
      cases List.mem_singleton.1 asked'
      exact ⟨sources, .nil, rfl⟩
  | finishing heads pendings =>
      cases List.mem_singleton.1 asked
      cases List.mem_singleton.1 asked'
      exact ⟨heads, pendings, rfl⟩

namespace Chronicle

section

variable (chronicle chronicle' : Chronicle Memory) (variation : Variation Memory) (run run' : Nat)

/-- What two runs are given is in concord, and what their boundaries complete with is alike. -/
structure Concords : Prop where
  given : variation.Concord (course run chronicle.history) (course run' chronicle'.history)
  /-- Because functions are determined, or as it happens. -/
  replied : variation.Determined ∨
    variation.ReplyAlike (course run chronicle.history) (course run' chronicle'.history)
  /-- What nested runs complete boundaries with is not asked for. -/
  completed : ∀ epoch outcome outcome' maker maker',
    (completions epoch (recordsOf run chronicle.history)).head? = some (outcome, maker) →
    (completions epoch (recordsOf run' chronicle'.history)).head? = some (outcome', maker') →
      (maker = .run ∧ maker' = .run) ∨ variation.Outcomes outcome outcome'
  /-- Frames are added only where no active token is canceled. -/
  live : variation.laws .wrapping → ∀ token, .looked token true ∉ course run' chronicle'.history

def StartVaried : Prop :=
  ∃ plan plan' pending pending' token receiver receiver',
    (course run chronicle.history).head? = some (.started plan pending token receiver) ∧
      (course run' chronicle'.history).head? = some (.started plan' pending' token receiver') ∧
        variation.Plans plan plan' ∧ variation.Stacks pending.toList pending'.toList

def KeepTime : Prop :=
  ∃ standing standing', chronicle.pool.situation.standings run = [standing] ∧
    chronicle'.pool.situation.standings run' = [standing'] ∧
      tellings run chronicle.history = standing.outcome?.toList ∧
        tellings run' chronicle'.history = standing'.outcome?.toList ∧
          variation.Paces (course run chronicle.history) standing
            (course run' chronicle'.history) standing'

end

variable {chronicle chronicle' : Chronicle Memory} {variation : Variation Memory} {run run' : Nat}

theorem ended_of_told {standing : Standing Memory} {outcome : Outcome Value}
    (told : tellings run chronicle.history = standing.outcome?.toList)
    (member : .told outcome ∈ course run chronicle.history) : standing = .ended outcome := by
  have listed := mem_tellings_iff.2 member
  rw [told, Option.mem_toList] at listed
  exact Standing.eq_ended listed

namespace KeepTime

variable (time : chronicle.KeepTime chronicle' variation run run')
include time

theorem covers {outcome : Outcome Value} (member : .told outcome ∈ course run chronicle.history) :
    Covers variation.Matches (deeds (course run chronicle.history))
      (deeds (course run' chronicle'.history)) := by
  obtain ⟨_, _, _, _, told, _, paces⟩ := time
  obtain rfl := ended_of_told told member
  rcases paces.first rfl with covers | ⟨epoch, outcome, awaited, _⟩
  · exact covers
  · cases awaited

theorem within {outcome : Outcome Value} (member : .told outcome ∈ course run' chronicle'.history) :
    Within variation.Matches (deeds (course run chronicle.history))
      (deeds (course run' chronicle'.history)) := by
  obtain ⟨_, _, _, _, _, told', paces⟩ := time
  obtain rfl := ended_of_told told' member
  rcases paces.second rfl with within | ⟨epoch, outcome, awaited, _⟩
  · exact within
  · cases awaited

theorem outcomes (reachable : chronicle.Reachable) {outcome outcome' : Outcome Value}
    (told : .told outcome ∈ course run chronicle.history)
    (told' : .told outcome' ∈ course run' chronicle'.history) :
    variation.Outcomes outcome outcome' := by
  obtain ⟨front, isFront, alike⟩ := time.covers told
  obtain ⟨deed, member, deeds⟩ := alike.exists_left (mem_deeds.2 ⟨told', rfl⟩) rfl
  cases deeds with
  | told outcomes =>
      have here := (mem_deeds.1 (isFront.subset member)).1
      cases (told_eq_some reachable.holds told).symm.trans (told_eq_some reachable.holds here)
      exact outcomes

/-- Where two runs have both reached a boundary, they have reached it alike. -/
theorem reached (reachable : chronicle.Reachable) (reachable' : chronicle'.Reachable)
    {epoch : Nat} {registration registration' : Registration Memory} {token token' : Token}
    {pending pending' : Stack (Frame Memory)}
    (here : .reached epoch registration token pending ∈ course run chronicle.history)
    (here' : .reached epoch registration' token' pending' ∈ course run' chronicle'.history) :
    variation.Registrations registration registration' ∧ token = token' := by
  obtain ⟨_, _, _, _, _, _, paces⟩ := time
  rcases paces.together with ⟨front, isFront, alike⟩ | ⟨front, isFront, alike⟩
  · obtain ⟨other, member, deeds⟩ := alike.exists_right (mem_deeds.2 ⟨here, rfl⟩)
    cases deeds with
    | reached registrations pendings =>
        have there := (mem_deeds.1 (isFront.subset member)).1
        obtain ⟨rfl, rfl⟩ := reachable'.holds.ledger.reached_eq there here'
        exact ⟨registrations, rfl⟩
  · obtain ⟨deed, member, deeds⟩ := alike.exists_left (mem_deeds.2 ⟨here', rfl⟩) rfl
    cases deeds with
    | reached registrations pendings =>
        have there := (mem_deeds.1 (isFront.subset member)).1
        obtain ⟨rfl, rfl⟩ := reachable.holds.ledger.reached_eq there here
        exact ⟨registrations, rfl⟩

end KeepTime

section Pairs

variable (reachable : chronicle.Reachable) (reachable' : chronicle'.Reachable)
include reachable reachable'

theorem startVaried_of_reached {nested nested' epoch : Nat}
    {registration registration' : Registration Memory} {token : Token}
    {pending pending' : Stack (Frame Memory)}
    (reached : .reached epoch registration token pending ∈ course run chronicle.history)
    (reached' : .reached epoch registration' token pending' ∈ course run' chronicle'.history)
    (registrations : variation.Registrations registration registration')
    (forwards : receiverOf chronicle.pool.host.runs nested = some (.forward ⟨run, epoch⟩))
    (forwards' : receiverOf chronicle'.pool.host.runs nested' = some (.forward ⟨run', epoch⟩)) :
    chronicle.StartVaried chronicle' variation nested nested' ∧ run < nested ∧
      nested < chronicle.pool.host.runs.size := by
  have found := nestedRun?_of_receiverOf (fun _ _ => reachable.holds.kept.unique _ _ _) forwards
  have found' := nestedRun?_of_receiverOf (fun _ _ => reachable'.holds.kept.unique _ _ _) forwards'
  obtain ⟨due, asked, later, bound, begun⟩ := started_of_nestedRun? reachable.holds reached found
  obtain ⟨due', asked', _, _, begun'⟩ := started_of_nestedRun? reachable'.holds reached' found'
  obtain ⟨plans, pendings, same⟩ := registrations.due asked asked'
  rw [← same] at begun'
  exact ⟨⟨_, _, _, _, _, _, _, begun, begun', plans, pendings⟩, later, bound⟩

theorem KeepTime.startVaried (time : chronicle.KeepTime chronicle' variation run run')
    {nested nested' epoch : Nat}
    (forwards : receiverOf chronicle.pool.host.runs nested = some (.forward ⟨run, epoch⟩))
    (forwards' : receiverOf chronicle'.pool.host.runs nested' = some (.forward ⟨run', epoch⟩)) :
    chronicle.StartVaried chronicle' variation nested nested' := by
  obtain ⟨_, _, _, here⟩ := reached_of_forwards reachable forwards
  obtain ⟨_, _, _, here'⟩ := reached_of_forwards reachable' forwards'
  obtain ⟨registrations, rfl⟩ := time.reached reachable reachable' here here'
  exact (startVaried_of_reached reachable reachable' here here' registrations forwards forwards').1

theorem Concords.replyAlike (concords : chronicle.Concords chronicle' variation run run') :
    variation.ReplyAlike (course run chronicle.history) (course run' chronicle'.history) := by
  rcases concords.replied with determined | replied
  · intro front happening rest front' happening' rest' call call' token token' next? listed listed' _
      calls
    exact determined.replies calls (reachable.truthful.replies _ _ _ _ _ _ listed)
      (reachable'.truthful.replies _ _ _ _ _ _ listed')
  · exact replied

/-- Boundaries of two runs complete alike if the runs that are nested in them do alike. -/
theorem Concords.settles (concords : chronicle.Concords chronicle' variation run run')
    (inner : NestedKeep chronicle chronicle' (chronicle.StartVaried chronicle' variation)
      (chronicle.KeepTime chronicle' variation) run run') :
    ∀ epoch happening other outcome outcome', happening ∈ course run chronicle.history →
      other ∈ course run' chronicle'.history → happening.epoch? = some epoch →
        variation.Deeds happening other → .crossed epoch outcome ∈ course run chronicle.history →
          .crossed epoch outcome' ∈ course run' chronicle'.history →
            variation.Outcomes outcome outcome' := by
  intro epoch happening other outcome outcome' reached reached' numbered deeds crossed crossed'
  obtain ⟨maker, first, thread, tried⟩ := reachable.holds.ledger.completed_of_crossed crossed
  obtain ⟨maker', first', thread', tried'⟩ := reachable'.holds.ledger.completed_of_crossed crossed'
  rcases concords.completed _ _ _ _ _ first first' with ⟨rfl, rfl⟩ | outcomes
  -- The outcomes have been told by runs that were started alike, since the boundaries were.
  · obtain ⟨nested, forwards, told⟩ := reachable.holds.kept.attempted _ _ _ ⟨thread, tried⟩
    obtain ⟨nested', forwards', told'⟩ := reachable'.holds.kept.attempted _ _ _ ⟨thread', tried'⟩
    cases deeds with
    | reached registrations pendings =>
        cases numbered
        obtain ⟨start, later, bound⟩ := startVaried_of_reached reachable reachable' reached
          reached' registrations forwards forwards'
        exact (inner _ _ _ forwards forwards' later bound start).outcomes reachable told told'
    | _ => cases numbered
  · exact outcomes

/-- Runs that are started alike do alike if their boundaries complete alike. -/
theorem StartVaried.keepTime (start : chronicle.StartVaried chronicle' variation run run')
    (setting : variation.Setting (course run chronicle.history) (course run' chronicle'.history)) :
    chronicle.KeepTime chronicle' variation run run' := by
  obtain ⟨plan, plan', pending, pending', token, receiver, receiver', started, started', plans,
    pendings⟩ := start
  obtain ⟨happenings, standing, listed, ⟨count, path⟩, single, told⟩ :=
    reachable.holds.tracked.leads_of_started started
  obtain ⟨happenings', standing', listed', ⟨count', path'⟩, single', told'⟩ :=
    reachable'.holds.tracked.leads_of_started started'
  refine ⟨standing, standing', single, single', told, told', ?_⟩
  have opened : variation.Matches (deeds [.started plan pending token receiver])
      (deeds [.started plan' pending' token receiver']) := .nil
  have paces : variation.Paces happenings standing happenings' standing' := by
    refine setting.paces ?_ path path' listed listed' opened ?_
    · exact plans.standings pendings token
    · intro epoch awaited
      cases awaited
  have whole := Variation.Paces.append opened paces
  rw [listed, listed']
  exact whole

theorem Concords.setting (concords : chronicle.Concords chronicle' variation run run')
    (inner : NestedKeep chronicle chronicle' (chronicle.StartVaried chronicle' variation)
      (chronicle.KeepTime chronicle' variation) run run') :
    variation.Setting (course run chronicle.history) (course run' chronicle'.history) where
  concord := concords.given
  replied := concords.replyAlike reachable reachable'
  numbered := reachable.numbered run
  numbered' := reachable'.numbered run'
  settles := concords.settles reachable reachable' inner
  answered := reachable'.answered run'
  bound before first next value token plan after listed := by
    obtain ⟨reply, shown, may⟩ := reachable'.truthful.replies _ _ _ _ _ _ listed
    cases may with
    | answered ends =>
        cases shown
        obtain ⟨source, same, _⟩ := Code.ends_grouped ends
        exact ⟨source, same⟩
    | panicked => cases shown
  live := concords.live

/-- All runs that are nested in two runs for boundaries with the same number do alike. -/
theorem Paired.keepTime {inner inner' : Nat}
    (paired : Paired chronicle chronicle' run run' inner inner')
    (start : chronicle.StartVaried chronicle' variation run run')
    (concords : ∀ inner inner', Paired chronicle chronicle' run run' inner inner' →
      chronicle.Concords chronicle' variation inner inner') :
    chronicle.KeepTime chronicle' variation inner inner' := by
  refine paired.keep ?_ ?_ start concords
  · intro run run' start concords inner
    exact start.keepTime reachable reachable' (concords.setting reachable reachable' inner)
  · intro run run' nested nested' epoch time forwards forwards'
    exact time.startVaried reachable reachable' forwards forwards'

end Pairs

namespace KeepTime

variable (time : chronicle.KeepTime chronicle' variation run run')
include time

theorem concur : Concur variation.Matches (deeds (course run chronicle.history))
    (deeds (course run' chronicle'.history)) := by
  refine ⟨?_, fun outcome told => time.covers (mem_deeds.1 told).1,
    fun outcome told => time.within (mem_deeds.1 told).1, ?_⟩
  · obtain ⟨_, _, _, _, _, _, paces⟩ := time
    exact paces.together
  · intro outcome outcome' member member'
    obtain ⟨_, _, _, _, told, told', paces⟩ := time
    obtain rfl := ended_of_told told (mem_deeds.1 member).1
    obtain rfl := ended_of_told told' (mem_deeds.1 member').1
    rcases paces.both rfl rfl with same | ⟨epoch, _, ⟨awaited, _⟩ | ⟨awaited, _⟩⟩
    · exact same
    · cases awaited
    · cases awaited

/-- Runs that do alike have done the same if they rest, their boundaries having been completed or
not alike. -/
theorem deeds_of_rests (reachable : chronicle.Reachable) (reachable' : chronicle'.Reachable)
    (rests : chronicle.pool.rests run = true) (rests' : chronicle'.pool.rests run' = true)
    (completed : ∀ epoch, completions epoch (recordsOf run chronicle.history) = [] ↔
      completions epoch (recordsOf run' chronicle'.history) = []) :
    variation.Matches (deeds (course run chronicle.history))
      (deeds (course run' chronicle'.history)) := by
  obtain ⟨standing, standing', single, single', told, told', paces⟩ := time
  obtain ⟨still, untried⟩ := reachable.still_of_rests rests single told
  obtain ⟨still', untried'⟩ := reachable'.still_of_rests rests' single' told'
  rcases paces.both still still' with
    same | ⟨epoch, outcome, ⟨awaited, crossed⟩ | ⟨awaited, crossed⟩⟩
  · exact same
  · obtain ⟨_, tried, _⟩ := reachable'.holds.ledger.completed_of_crossed crossed
    rw [(completed epoch).1 (untried epoch awaited)] at tried
    cases tried
  · obtain ⟨_, tried, _⟩ := reachable.holds.ledger.completed_of_crossed crossed
    rw [(completed epoch).2 (untried' epoch awaited)] at tried
    cases tried

end KeepTime

end Chronicle

end Trampoline
