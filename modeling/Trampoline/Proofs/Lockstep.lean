import Trampoline.Proofs.Delivery
import Trampoline.Proofs.Onward
import Trampoline.Proofs.Transcript

/-!
Runs of programs that are alike go in step.

As long as whatever two runs ask alike is answered alike, they ask alike, however the boundaries
between are crossed.  A boundary that is replaced by a result, and the boundary of a nested run,
take more than one step, which the transcripts do not show.
-/

namespace Trampoline

variable {Memory : Type}

namespace Likeness

variable (likeness : Likeness Memory)

inductive Moments : Moment Memory → Moment Memory → Prop where
  | asked {query other} (queries : likeness.Queries query other) :
      Moments (.asked query) (.asked other)
  | replied {reply other} (replies : likeness.Replies reply other) :
      Moments (.replied reply) (.replied other)

def Together : List (Moment Memory) → List (Moment Memory) → Prop
  | moment :: rest, other :: others => likeness.Moments moment other ∧ Together rest others
  | _, _ => True

/-- As long as the same is asked, the same is replied. -/
def Consistent : List (Moment Memory) → List (Moment Memory) → Prop
  | .asked query :: rest, .asked other :: others =>
      likeness.Queries query other → Consistent rest others
  | .replied reply :: rest, .replied other :: others =>
      likeness.Replies reply other ∧ Consistent rest others
  | _, _ => True

/-- Transcripts are alike as far as both go; neither goes on where the other has told an outcome,
and the outcomes are alike. -/
structure InStep (moments others : List (Moment Memory)) (told told' : Option (Outcome Value)) :
    Prop where
  together : likeness.Together moments others
  first : told.isSome = true → others.length ≤ moments.length
  second : told'.isSome = true → moments.length ≤ others.length
  outcomes : ∀ outcome other, told = some outcome → told' = some other →
    likeness.Outcomes outcome other

inductive Sites : Site Memory → Site Memory → Prop where
  | suspended {onPanic onPanic'}
      (functions : likeness.functions (.naming onPanic) (.naming onPanic')) :
      Sites (.suspended onPanic) (.suspended onPanic')
  | delayed {onPanic onPanic'}
      (functions : likeness.functions (.naming onPanic) (.naming onPanic')) :
      Sites (.delayed onPanic) (.delayed onPanic')
  | namingSuspended : Sites .namingSuspended .namingSuspended
  | namingDelayed : Sites .namingDelayed .namingDelayed
  | continuing : Sites .continuing .continuing
  | mapping : Sites .mapping .mapping
  | switching {source source' restore restore'} (sources : likeness.Plans source source')
      (restores : likeness.Restores restore restore') :
      Sites (.switching source restore) (.switching source' restore')
  | restoring {result other} (results : likeness.Results result other) :
      Sites (.restoring result) (.restoring other)

/-- Runs that stand at the same place of programs that are alike. -/
inductive Standings : Standing Memory → Standing Memory → Prop where
  | iterating {plan other pending pending' token} (plans : likeness.Plans plan other)
      (pendings : likeness.Stacks pending pending') :
      Standings (.iterating plan pending token) (.iterating other pending' token)
  | feeding {result other pending pending' token} (results : likeness.Results result other)
      (pendings : likeness.Stacks pending pending') :
      Standings (.feeding result pending token) (.feeding other pending' token)
  | calling {site other pending pending' token} (sites : likeness.Sites site other)
      (pendings : likeness.Stacks pending pending') :
      Standings (.calling site pending token) (.calling other pending' token)
  | ending {outcome other} (outcomes : likeness.Outcomes outcome other) :
      Standings (.ending outcome) (.ending other)
  | ended {outcome other} (outcomes : likeness.Outcomes outcome other) :
      Standings (.ended outcome) (.ended other)

section Lists

variable {likeness} {moments others rest rest' : List (Moment Memory)}

theorem Consistent.of_append (consistent : likeness.Consistent (moments ++ rest) (others ++ rest')) :
    likeness.Consistent moments others := by
  induction moments generalizing others with
  | nil => simp [Consistent]
  | cons moment moments inductionHypothesis =>
      cases others with
      | nil => simp [Consistent]
      | cons other others =>
          cases moment <;> cases other <;> simp only [Consistent, List.cons_append] at consistent ⊢
          · exact fun queries => inductionHypothesis (consistent queries)
          · exact ⟨consistent.1, inductionHypothesis consistent.2⟩

theorem Consistent.beyond (consistent : likeness.Consistent (moments ++ rest) (others ++ rest'))
    (together : likeness.Together moments others) (length : moments.length = others.length) :
    likeness.Consistent rest rest' := by
  induction moments generalizing others with
  | nil =>
      rw [List.eq_nil_of_length_eq_zero length.symm] at consistent
      exact consistent
  | cons moment moments inductionHypothesis =>
      cases others with
      | nil => cases length
      | cons other others =>
          obtain ⟨alike, later⟩ := together
          have shorter : moments.length = others.length := Nat.succ.inj length
          cases alike with
          | asked queries => exact inductionHypothesis (consistent queries) later shorter
          | replied replies => exact inductionHypothesis consistent.2 later shorter

theorem Together.append (together : likeness.Together moments others)
    (length : moments.length = others.length) (later : likeness.Together rest rest') :
    likeness.Together (moments ++ rest) (others ++ rest') := by
  induction moments generalizing others with
  | nil =>
      rw [List.eq_nil_of_length_eq_zero length.symm]
      exact later
  | cons moment moments inductionHypothesis =>
      cases others with
      | nil => cases length
      | cons other others =>
          exact ⟨together.1, inductionHypothesis together.2 (Nat.succ.inj length)⟩

theorem Together.nil_right : likeness.Together moments [] := by
  cases moments <;> trivial

theorem Together.append_left (together : likeness.Together moments others)
    (length : others.length ≤ moments.length) : likeness.Together (moments ++ rest) others := by
  induction moments generalizing others with
  | nil =>
      rw [List.eq_nil_of_length_eq_zero (Nat.le_zero.1 length)]
      exact .nil_right
  | cons moment moments inductionHypothesis =>
      cases others with
      | nil => exact .nil_right
      | cons other others =>
          exact ⟨together.1, inductionHypothesis together.2 (Nat.le_of_succ_le_succ length)⟩

theorem Together.append_right (together : likeness.Together moments others)
    (length : moments.length ≤ others.length) : likeness.Together moments (others ++ rest') := by
  induction moments generalizing others with
  | nil => trivial
  | cons moment moments inductionHypothesis =>
      cases others with
      | nil => cases length
      | cons other others =>
          exact ⟨together.1, inductionHypothesis together.2 (Nat.le_of_succ_le_succ length)⟩

end Lists

namespace InStep

variable {likeness} {moments others rest rest' : List (Moment Memory)}
  {told told' : Option (Outcome Value)}

theorem nil_left : likeness.InStep [] others none told' :=
  ⟨trivial, nofun, fun _ => Nat.zero_le _, nofun⟩

theorem nil_right : likeness.InStep moments [] told none :=
  ⟨.nil_right, fun _ => Nat.zero_le _, nofun, nofun⟩

theorem append (later : likeness.InStep rest rest' told told')
    (together : likeness.Together moments others) (length : moments.length = others.length) :
    likeness.InStep (moments ++ rest) (others ++ rest') told told' where
  together := together.append length later.together
  first ended := by
    have bound := later.first ended
    simp only [List.length_append]
    omega
  second ended := by
    have bound := later.second ended
    simp only [List.length_append]
    omega
  outcomes := later.outcomes

theorem cons {moment other : Moment Memory} (alike : likeness.Moments moment other)
    (later : likeness.InStep rest rest' told told') :
    likeness.InStep (moment :: rest) (other :: rest') told told' := by
  have together : likeness.Together [moment] [other] := ⟨alike, trivial⟩
  exact later.append together rfl

theorem wait (nested : likeness.InStep moments others told told') :
    likeness.InStep moments others none none :=
  ⟨nested.together, nofun, nofun, nofun⟩

theorem forget {known known' : Option (Outcome Value)}
    (inStep : likeness.InStep moments others told told') (left : known = none ∨ known = told)
    (right : known' = none ∨ known' = told') : likeness.InStep moments others known known' := by
  rcases left with rfl | rfl <;> rcases right with rfl | rfl
  · exact inStep.wait
  · exact ⟨inStep.together, by simp, inStep.second, by simp⟩
  · exact ⟨inStep.together, inStep.first, by simp, by simp⟩
  · exact inStep

theorem wait_left {other : Outcome Value}
    (nested : likeness.InStep moments others told (some other)) :
    likeness.InStep moments (others ++ rest') none told' where
  together := nested.together.append_right (nested.second rfl)
  first := nofun
  second _ := by
    have bound := nested.second rfl
    rw [List.length_append]
    omega
  outcomes := nofun

theorem wait_right {outcome : Outcome Value}
    (nested : likeness.InStep moments others (some outcome) told') :
    likeness.InStep (moments ++ rest) others told none where
  together := nested.together.append_left (nested.first rfl)
  first _ := by
    have bound := nested.first rfl
    rw [List.length_append]
    omega
  second := nofun
  outcomes := nofun

theorem past {outcome other : Outcome Value}
    (nested : likeness.InStep moments others (some outcome) (some other))
    (later : likeness.InStep rest rest' told told') :
    likeness.InStep (moments ++ rest) (others ++ rest') told told' :=
  later.append nested.together (Nat.le_antisymm (nested.second rfl) (nested.first rfl))

end InStep

end Likeness

namespace Standing

variable {canceled : Token → Bool}

/-- Wherever a token was looked at, it was canceled or not once and for all. -/
def Looks (canceled : Token → Bool) (happenings : List (Happening Memory)) : Prop :=
  ∀ token found, .looked token found ∈ happenings → found = canceled token

/-- Whether a run is about to reach or to cross a boundary. -/
def isPassage (canceled : Token → Bool) : Standing Memory → Bool
  | .iterating (.async _) _ token => !canceled token
  | .suspended _ _ _ => true
  | _ => false

variable {standing next : Standing Memory} {happenings : List (Happening Memory)}

theorem Step.isPassage (step : Step standing happenings next) (looks : Looks canceled happenings)
    (inner : standing.isPassage canceled = false) :
    ∀ happening ∈ happenings, happening.isPassage = false := by
  cases step with
  | reach =>
      have found := looks _ _ (.head _)
      rw [Standing.isPassage, ← found] at inner
      cases inner
  | cross => cases inner
  | _ => simp [Happening.isPassage]

theorem Step.of_canceled {plan : Plan Memory} {pending : List (Frame Memory)} {token : Token}
    (step : Step (.iterating plan pending token) happenings next) (looks : Looks canceled happenings)
    (verdict : canceled token = true) :
    happenings = [.looked token true] ∧ next = .ending .canceled := by
  cases step with
  | stop => exact ⟨rfl, rfl⟩
  | _ => cases (looks _ _ (.head _)).trans verdict

end Standing

namespace Likeness

variable {likeness : Likeness Memory}

theorem Frames.call? {frame other : Frame Memory} (frames : likeness.Frames frame other)
    {result result' : Result} (results : likeness.Results result result') (token : Token) :
    (frame.call? result token = none ∧ other.call? result' token = none) ∨
      ∃ call call', frame.call? result token = some call ∧ other.call? result' token = some call' ∧
        likeness.Calls call call' ∧ likeness.Sites (frame.site result) (other.site result') := by
  cases frames with
  | bind functions =>
      cases results with
      | ok values => exact .inr ⟨_, _, rfl, rfl, .continuing functions values, .continuing⟩
      | error failures => exact .inl ⟨rfl, rfl⟩
  | map functions =>
      cases results with
      | ok values => exact .inr ⟨_, _, rfl, rfl, .mapping functions values, .mapping⟩
      | error failures => exact .inl ⟨rfl, rfl⟩
  | handle functions =>
      cases results with
      | ok values => exact .inl ⟨rfl, rfl⟩
      | error failures => exact .inr ⟨_, _, rfl, rfl, .handling functions failures, .continuing⟩
  | redeem handlers functions =>
      cases results with
      | ok values => exact .inr ⟨_, _, rfl, rfl, .continuing functions values, .continuing⟩
      | error failures => exact .inr ⟨_, _, rfl, rfl, .handling handlers failures, .continuing⟩
  | @restore old back back' functions =>
      have called : likeness.Calls (.restoring back result old token)
          (.restoring back' result' old token) :=
        .restoring functions results
      cases results with
      | ok values => exact .inr ⟨_, _, rfl, rfl, called, .restoring (.ok values)⟩
      | error failures => exact .inr ⟨_, _, rfl, rfl, called, .restoring (.error failures)⟩

theorem Standings.after {outcome other : Outcome Value} {pending pending' : List (Frame Memory)}
    (outcomes : likeness.Outcomes outcome other) (pendings : likeness.Stacks pending pending')
    (token : Token) :
    likeness.Standings (.after outcome pending token) (.after other pending' token) := by
  cases outcomes with
  | completed values => exact .iterating (.pure values) pendings
  | failed failures => exact .iterating (.raise failures) pendings
  | canceled => exact .ending .canceled

/-- What two runs show is alike, and then they stand at the same place. -/
def Advance (likeness : Likeness Memory) (happenings happenings' : List (Happening Memory))
    (next next' : Standing Memory) : Prop :=
  let moments := happenings.flatMap Happening.shown
  let others := happenings'.flatMap Happening.shown
  likeness.Together moments others ∧ moments.length = others.length ∧ likeness.Standings next next'

section Advance

variable {happenings happenings' : List (Happening Memory)} {next next' : Standing Memory}
  {pending pending' : List (Frame Memory)} {token : Token}

theorem Plans.advance {plan other : Plan Memory} (plans : likeness.Plans plan other)
    (pendings : likeness.Stacks pending pending')
    (step : Standing.Step (.iterating plan pending token) happenings next)
    (step' : Standing.Step (.iterating other pending' token) happenings' next')
    (inner : ∀ registration, plan ≠ .async registration)
    (live : .looked token true ∉ happenings) (live' : .looked token true ∉ happenings')
    (consistent : likeness.Consistent (happenings.flatMap Happening.shown)
      (happenings'.flatMap Happening.shown)) :
    likeness.Advance happenings happenings' next next' := by
  cases plans with
  | pure values =>
      cases step.eq_forward live rfl
      cases step'.eq_forward live' rfl
      exact ⟨trivial, rfl, .feeding (.ok values) pendings⟩
  | raise failures =>
      cases step.eq_forward live rfl
      cases step'.eq_forward live' rfl
      exact ⟨trivial, rfl, .feeding (.error failures) pendings⟩
  | suspendWith thunks functions =>
      cases step.eq_forward live rfl
      cases step'.eq_forward live' rfl
      exact ⟨⟨.asked (.call (.suspended thunks)), trivial⟩, rfl,
        .calling (.suspended functions) pendings⟩
  | delayWith thunks functions =>
      cases step.eq_forward live rfl
      cases step'.eq_forward live' rfl
      exact ⟨⟨.asked (.call (.delayed thunks)), trivial⟩, rfl,
        .calling (.delayed functions) pendings⟩
  | calling | replaced | hopping | finishing => exact absurd rfl (inner _)
  | sequencing first second frames sources =>
      cases step.eq_forward live (Standing.forward?_of_frame? first _ _)
      cases step'.eq_forward live' (Standing.forward?_of_frame? second _ _)
      exact ⟨trivial, rfl, .iterating sources (.cons frames pendings)⟩
  | continueOn sources =>
      cases step.eq_forward live rfl
      cases step'.eq_forward live' rfl
      exact ⟨trivial, rfl, .iterating (.hopping sources) pendings⟩
  | switch sources functions restores =>
      cases step.eq_forward live rfl
      cases step'.eq_forward live' rfl
      exact ⟨⟨.asked (.call (.switching functions)), trivial⟩, rfl,
        .calling (.switching sources restores) pendings⟩
  | held =>
      obtain ⟨found, rfl, rfl⟩ := step.of_held live
      obtain ⟨found', rfl, rfl⟩ := step'.of_held live'
      have plans := (consistent .lookUp).1.recalled_plans
      exact ⟨⟨.asked .lookUp, .replied (.recalled plans), trivial⟩, rfl, .iterating plans pendings⟩

theorem Results.advance {result other : Result} (results : likeness.Results result other)
    (pendings : likeness.Stacks pending pending')
    (step : Standing.Step (.feeding result pending token) happenings next)
    (step' : Standing.Step (.feeding other pending' token) happenings' next') :
    likeness.Advance happenings happenings' next next' := by
  rw [Standing.step_feeding_iff] at step step'
  cases pendings with
  | nil =>
      cases step
      cases step'
      refine ⟨trivial, rfl, .ending ?_⟩
      cases results with
      | ok values => exact .completed values
      | error failures => exact .failed failures
  | cons frames pendings =>
      rcases frames.call? results token with
        ⟨refused, refused'⟩ | ⟨call, call', taken, taken', calls, sites⟩
      · cases (Standing.fed_of_refused refused).symm.trans step
        cases (Standing.fed_of_refused refused').symm.trans step'
        exact ⟨trivial, rfl, .feeding results pendings⟩
      · cases (Standing.fed_of_taken taken).symm.trans step
        cases (Standing.fed_of_taken taken').symm.trans step'
        exact ⟨⟨.asked (.call calls), trivial⟩, rfl, .calling sites pendings⟩

theorem Sites.answered {site other : Site Memory} {form : Form} {answer answer' : Answer Memory form}
    (sites : likeness.Sites site other) (pendings : likeness.Stacks pending pending')
    (answers : likeness.Answers answer answer')
    (goes : site.answered? answer pending token = some next)
    (goes' : other.answered? answer' pending' token = some next') :
    likeness.Standings next next' := by
  cases answers with
  | unit | result => cases site <;> cases goes
  | plan plans =>
      cases sites <;> cases goes
      all_goals
        cases goes'
        exact .iterating plans pendings
  | value values =>
      cases sites <;> cases goes <;> cases goes'
      · exact .feeding (.ok values) pendings
      · exact .iterating (.pure values) pendings
  | failure failures =>
      cases sites <;> cases goes <;> cases goes'
      · exact .iterating (.raise failures) pendings
      · exact .feeding (.error failures) pendings
  | token =>
      cases sites with
      | switching sources restores =>
          -- Both runs compare the token that they are given with the active one.
          simp only [Site.answered?] at goes goes'
          split at goes
          · rename_i same
            rw [if_pos same] at goes'
            cases goes
            cases goes'
            exact .iterating sources pendings
          · rename_i different
            rw [if_neg different] at goes'
            cases goes
            cases goes'
            cases restores with
            | none => exact .iterating sources pendings
            | some functions => exact .iterating sources (.cons (.restore functions) pendings)
      | restoring results =>
          cases goes
          cases goes'
          exact .iterating (.ofResult results) pendings
      | _ => cases goes

theorem Sites.panicked {site other : Site Memory} {panic panic' : Panic}
    (sites : likeness.Sites site other) (pendings : likeness.Stacks pending pending')
    (panics : likeness.panics panic panic') :
    likeness.Advance (.panicked panic :: (site.panicked panic pending token).1)
      (.panicked panic' :: (other.panicked panic' pending' token).1)
      (site.panicked panic pending token).2 (other.panicked panic' pending' token).2 := by
  have replied : likeness.Moments (.replied (.panicked panic)) (.replied (.panicked panic')) :=
    .replied (.panicked panics)
  cases sites with
  | suspended functions =>
      exact ⟨⟨replied, .asked (.call (.naming functions panics)), trivial⟩, rfl,
        .calling .namingSuspended pendings⟩
  | delayed functions =>
      exact ⟨⟨replied, .asked (.call (.naming functions panics)), trivial⟩, rfl,
        .calling .namingDelayed pendings⟩
  | namingDelayed =>
      exact ⟨⟨replied, trivial⟩, rfl, .feeding (.error (.panicked panics)) pendings⟩
  | _ => exact ⟨⟨replied, trivial⟩, rfl, .iterating (.raise (.panicked panics)) pendings⟩

theorem Sites.advance {site other : Site Memory} (sites : likeness.Sites site other)
    (pendings : likeness.Stacks pending pending')
    (step : Standing.Step (.calling site pending token) happenings next)
    (step' : Standing.Step (.calling other pending' token) happenings' next')
    (consistent : likeness.Consistent (happenings.flatMap Happening.shown)
      (happenings'.flatMap Happening.shown)) :
    likeness.Advance happenings happenings' next next' := by
  cases Standing.step_calling_iff.1 step with
  | answered goes =>
      cases Standing.step_calling_iff.1 step' with
      | answered goes' =>
          cases consistent.1 with
          | answered answers =>
              exact ⟨⟨.replied (.answered answers), trivial⟩, rfl,
                sites.answered pendings answers goes goes'⟩
      | panicked => cases consistent.1
  | panicked panic =>
      cases Standing.step_calling_iff.1 step' with
      | answered => cases consistent.1
      | panicked panic' => exact sites.panicked pendings consistent.1.panics

theorem Standings.advance {standing standing' : Standing Memory} {canceled : Token → Bool}
    (standings : likeness.Standings standing standing')
    (step : Standing.Step standing happenings next)
    (step' : Standing.Step standing' happenings' next')
    (inner : standing.isPassage canceled = false) (looks : Standing.Looks canceled happenings)
    (looks' : Standing.Looks canceled happenings')
    (consistent : likeness.Consistent (happenings.flatMap Happening.shown)
      (happenings'.flatMap Happening.shown)) :
    likeness.Advance happenings happenings' next next' := by
  cases standings with
  | @iterating plan other pending pending' token plans pendings =>
      cases verdict : canceled token with
      | true =>
          obtain ⟨rfl, rfl⟩ := step.of_canceled looks verdict
          obtain ⟨rfl, rfl⟩ := step'.of_canceled looks' verdict
          exact ⟨trivial, rfl, .ending .canceled⟩
      | false =>
          apply plans.advance pendings step step' _ _ _ consistent
          · rintro registration rfl
            rw [Standing.isPassage, verdict] at inner
            cases inner
          · intro member
            cases (looks _ _ member).trans verdict
          · intro member
            cases (looks' _ _ member).trans verdict
  | feeding results pendings => exact results.advance pendings step step'
  | calling sites pendings => exact sites.advance pendings step step' consistent
  | ending outcomes =>
      cases step
      cases step'
      exact ⟨trivial, rfl, .ended outcomes⟩
  | ended => cases step

theorem Standings.isPassage {standing standing' : Standing Memory} {canceled : Token → Bool}
    (standings : likeness.Standings standing standing')
    (inner : standing.isPassage canceled = false) : standing'.isPassage canceled = false := by
  cases standings with
  | @iterating plan other pending pending' token plans pendings =>
      cases plans with
      | calling | hopping | finishing => exact inner
      | @replaced register result known => cases result <;> rfl
      | sequencing first second => cases other <;> first | rfl | cases second
      | _ => rfl
  | _ => rfl

theorem Standings.outcomes {standing standing' : Standing Memory}
    (standings : likeness.Standings standing standing') :
    (∃ outcome other, standing = .ended outcome ∧ standing' = .ended other ∧
      likeness.Outcomes outcome other) ∨
      (standing.outcome? = none ∧ standing'.outcome? = none) := by
  cases standings with
  | ended outcomes => exact .inl ⟨_, _, rfl, rfl, outcomes⟩
  | _ => exact .inr ⟨rfl, rfl⟩

end Advance

end Likeness

namespace Standing

/-- A run that comes to a boundary: it has not looked at its token yet, or it is at the boundary, or
it has gone on with the outcome. -/
inductive Passing (registration : Registration Memory) (pending : List (Frame Memory))
    (token : Token) : Nat → List (Happening Memory) → Standing Memory → Prop where
  | before : Passing registration pending token 0 [] (.iterating (.async registration) pending token)
  | reached {saved : Stack (Frame Memory)} {epoch} : saved.toList = pending →
      Passing registration pending token 1
        [.looked token false, .reached epoch registration token saved]
        (.suspended epoch pending token)
  | crossed {saved : Stack (Frame Memory)} {epoch outcome count rest goal} : saved.toList = pending →
      Path count (after outcome pending token) rest goal →
      Passing registration pending token (count + 2)
        (.looked token false :: .reached epoch registration token saved :: .crossed epoch outcome ::
          rest) goal

theorem Path.passing {registration : Registration Memory} {pending : List (Frame Memory)}
    {token : Token} {count : Nat} {happenings : List (Happening Memory)} {goal : Standing Memory}
    (path : Path count (.iterating (.async registration) pending token) happenings goal)
    {canceled : Token → Bool} (looks : Looks canceled happenings)
    (verdict : canceled token = false) :
    Passing registration pending token count happenings goal := by
  cases path with
  | done => exact .before
  | step first path =>
      cases step_iterating_iff.1 first with
      | stopped => cases (looks _ _ (.head _)).trans verdict
      | forward goes => cases goes
      | recalled held => cases held
      | reached boundary saves =>
          cases boundary
          cases path with
          | done => exact .reached saves
          | step second path =>
              cases second with
              | cross => exact .crossed saves path

structure Bridged (canceled : Token → Bool)
    (replaced : (Token → Completer → Code Memory .unit) → Option Result)
    (told : Nat → Option (Outcome Value)) (happenings : List (Happening Memory)) : Prop where
  looks : Looks canceled happenings
  /-- A boundary that is replaced by a result completes with that. -/
  settled : ∀ epoch register token pending outcome result,
    .reached epoch (.calling register) token pending ∈ happenings →
    .crossed epoch outcome ∈ happenings → replaced register = some result →
      outcome = .ofResult result
  /-- A boundary for a nested run completes with what that run has told. -/
  forwarded : ∀ epoch registration token pending outcome,
    .reached epoch registration token pending ∈ happenings → .crossed epoch outcome ∈ happenings →
      registration.isNested = true → told epoch = some outcome

namespace Bridged

variable {canceled : Token → Bool}
  {replaced : (Token → Completer → Code Memory .unit) → Option Result}
  {told : Nat → Option (Outcome Value)} {happenings rest : List (Happening Memory)}

theorem mono (bridged : Bridged canceled replaced told happenings) (subset : rest ⊆ happenings) :
    Bridged canceled replaced told rest where
  looks token found member := bridged.looks token found (subset member)
  settled _ _ _ _ _ _ reached crossed :=
    bridged.settled _ _ _ _ _ _ (subset reached) (subset crossed)
  forwarded _ _ _ _ _ reached crossed :=
    bridged.forwarded _ _ _ _ _ (subset reached) (subset crossed)

section Crossed

variable {epoch : Nat} {registration : Registration Memory} {current token : Token}
  {saved : Stack (Frame Memory)} {outcome : Outcome Value}
  (bridged : Bridged canceled replaced told (.looked current false ::
    .reached epoch registration token saved :: .crossed epoch outcome :: rest))
include bridged

theorem beyond : Bridged canceled replaced told rest :=
  bridged.mono (List.subset_append_right [_, _, _] _)

theorem told_eq (isNested : registration.isNested = true) : told epoch = some outcome :=
  bridged.forwarded _ _ _ _ _ (.tail _ (.head _)) (.tail _ (.tail _ (.head _))) isNested

theorem outcome_eq {register : Token → Completer → Code Memory .unit} {result : Result}
    (calling : registration = .calling register) (known : replaced register = some result) :
    outcome = .ofResult result := by
  subst calling
  exact bridged.settled _ _ _ _ _ _ (.tail _ (.head _)) (.tail _ (.tail _ (.head _))) known

end Crossed

end Bridged

end Standing

namespace Likeness

open Standing (Bridged)

variable {likeness : Likeness Memory} {canceled : Token → Bool}
  {nested nested' : Registration Memory → Nat → Token → List (Moment Memory)}
  {told told' : Nat → Option (Outcome Value)}

/-- Nested runs go in step wherever two runs are at boundaries for nested runs that are alike. -/
def Hops (likeness : Likeness Memory)
    (nested nested' : Registration Memory → Nat → Token → List (Moment Memory))
    (told told' : Nat → Option (Outcome Value))
    (happenings happenings' : List (Happening Memory)) : Prop :=
  ∀ epoch epoch' registration registration' token pending pending',
    .reached epoch registration token pending ∈ happenings →
    .reached epoch' registration' token pending' ∈ happenings' →
      registration.isNested = true →
      likeness.Plans (.async registration) (.async registration') →
      likeness.Consistent (nested registration epoch token) (nested' registration' epoch' token) →
      likeness.InStep (nested registration epoch token) (nested' registration' epoch' token) (told epoch) (told' epoch')

theorem Hops.mono {happenings happenings' rest rest' : List (Happening Memory)}
    (hops : likeness.Hops nested nested' told told' happenings happenings')
    (subset : rest ⊆ happenings) (subset' : rest' ⊆ happenings') :
    likeness.Hops nested nested' told told' rest rest' :=
  fun _ _ _ _ _ _ _ reached reached' =>
    hops _ _ _ _ _ _ _ (subset reached) (subset' reached')

/-- Runs that stand at the same place are in step so many steps later. -/
def StayInStep (likeness : Likeness Memory) (canceled : Token → Bool)
    (nested nested' : Registration Memory → Nat → Token → List (Moment Memory))
    (told told' : Nat → Option (Outcome Value)) (count count' : Nat) : Prop :=
  ∀ standing standing' happenings happenings' goal goal', likeness.Standings standing standing' →
    Standing.Path count standing happenings goal →
    Standing.Path count' standing' happenings' goal' →
    Bridged canceled likeness.replaced told happenings →
    Bridged canceled (fun _ => none) told' happenings' →
    likeness.Hops nested nested' told told' happenings happenings' →
    likeness.Consistent (transcript likeness.hides nested none happenings)
      (transcript (fun _ => false) nested' none happenings') →
    likeness.InStep (transcript likeness.hides nested none happenings)
      (transcript (fun _ => false) nested' none happenings') goal.outcome? goal'.outcome?

/-- Runs that come to boundaries: to boundaries that are completed from outside, to one and to the
result that it is replaced by, or to boundaries for nested runs. -/
inductive Passages (likeness : Likeness Memory) (token : Token) (count count' : Nat)
    (happenings happenings' : List (Happening Memory)) (goal goal' : Standing Memory) : Prop where
  | calling {register register' : Token → Completer → Code Memory .unit} {pending pending'}
      (passing : Standing.Passing (.calling register) pending token count happenings goal)
      (passing' : Standing.Passing (.calling register') pending' token count' happenings' goal')
      (kept : likeness.replaced register = none)
      (functions : likeness.functions (.registering register) (.registering register'))
      (pendings : likeness.Stacks pending pending')
  | replaced {register : Token → Completer → Code Memory .unit} {result pending pending'}
      (passing : Standing.Passing (.calling register) pending token count happenings goal)
      (path' : Standing.Path count' (.iterating (.ofResult result) pending' token) happenings' goal')
      (known : likeness.replaced register = some result)
      (pendings : likeness.Stacks pending pending')
  | nested {registration registration' : Registration Memory} {pending pending'}
      (passing : Standing.Passing registration pending token count happenings goal)
      (passing' : Standing.Passing registration' pending' token count' happenings' goal')
      (isNested : registration.isNested = true) (isNested' : registration'.isNested = true)
      (plans : likeness.Plans (.async registration) (.async registration'))
      (pendings : likeness.Stacks pending pending')

theorem Standings.passages {standing standing' goal goal' : Standing Memory} {count count' : Nat}
    {happenings happenings' : List (Happening Memory)}
    (standings : likeness.Standings standing standing')
    (path : Standing.Path count standing happenings goal)
    (path' : Standing.Path count' standing' happenings' goal')
    (looks : Standing.Looks canceled happenings) (looks' : Standing.Looks canceled happenings')
    (passage : standing.isPassage canceled = true) :
    ∃ token, likeness.Passages token count count' happenings happenings' goal goal' := by
  cases standings with
  | @iterating plan other pending pending' token plans pendings =>
      obtain ⟨registration, rfl⟩ : ∃ registration, plan = .async registration := by
        cases plan <;> first | exact ⟨_, rfl⟩ | cases passage
      have verdict : canceled token = false := by simpa [Standing.isPassage] using passage
      have passing := path.passing looks verdict
      refine ⟨token, ?_⟩
      cases plans with
      | calling kept functions =>
          exact .calling passing (path'.passing looks' verdict) kept functions pendings
      | replaced known => exact .replaced passing path' known pendings
      | hopping sources =>
          exact .nested passing (path'.passing looks' verdict) rfl rfl (.hopping sources) pendings
      | finishing heads frames =>
          exact .nested passing (path'.passing looks' verdict) rfl rfl (.finishing heads frames)
            pendings
      | sequencing first => cases first
  | _ => cases passage

section Boundaries

variable {pending pending' : List (Frame Memory)} {token : Token} {count count' : Nat}
  {happenings happenings' : List (Happening Memory)} {goal goal' : Standing Memory}
  {register register' : Token → Completer → Code Memory .unit}
  (later : ∀ fewer fewer', fewer + fewer' < count + count' →
    likeness.StayInStep canceled nested nested' told told' fewer fewer')
  (bridged : Bridged canceled likeness.replaced told happenings)
  (bridged' : Bridged canceled (fun _ => none) told' happenings')
  (hops : likeness.Hops nested nested' told told' happenings happenings')
  (consistent : likeness.Consistent (transcript likeness.hides nested none happenings)
    (transcript (fun _ => false) nested' none happenings'))
include later bridged bridged' hops consistent

theorem calling_inStep
    (passing : Standing.Passing (.calling register) pending token count happenings goal)
    (passing' : Standing.Passing (.calling register') pending' token count' happenings' goal')
    (kept : likeness.replaced register = none)
    (functions : likeness.functions (.registering register) (.registering register'))
    (pendings : likeness.Stacks pending pending') :
    likeness.InStep (transcript likeness.hides nested none happenings)
      (transcript (fun _ => false) nested' none happenings') goal.outcome? goal'.outcome? := by
  have shows : likeness.hides (.calling register) = false := by simp [hides, kept]
  cases passing with
  | before => exact .nil_left
  | reached =>
      cases passing' with
      | before => exact .nil_right
      | reached | crossed =>
          rw [transcript_reached_kept _ _ shows, transcript_reached_kept _ _ rfl]
          exact .cons (.asked (.reach functions)) .nil_left
  | crossed saved path =>
      cases passing' with
      | before => exact .nil_right
      | reached =>
          rw [transcript_reached_kept _ _ shows, transcript_reached_kept _ _ rfl]
          exact .cons (.asked (.reach functions)) .nil_right
      | crossed saved' path' =>
          rw [transcript_reached_kept _ _ shows, transcript_crossed_kept _ _ shows,
            transcript_reached_kept _ _ rfl, transcript_crossed_kept _ _ rfl] at consistent ⊢
          obtain ⟨crossed, consistent⟩ := consistent (.reach functions)
          refine .cons (.asked (.reach functions)) (.cons (.replied crossed) ?_)
          refine later _ _ (by omega) _ _ _ _ _ _ (.after crossed.outcomes pendings token) path path'
            ?_ ?_ ?_ consistent
          · exact bridged.beyond
          · exact bridged'.beyond
          · exact hops.mono (List.subset_append_right [_, _, _] _)
              (List.subset_append_right [_, _, _] _)

/-- A boundary that only the first run is at: the other has the result that it completes with. -/
theorem replaced_inStep {result : Result}
    (passing : Standing.Passing (.calling register) pending token count happenings goal)
    (path' : Standing.Path count' (.iterating (.ofResult result) pending' token) happenings' goal')
    (known : likeness.replaced register = some result)
    (pendings : likeness.Stacks pending pending') :
    likeness.InStep (transcript likeness.hides nested none happenings)
      (transcript (fun _ => false) nested' none happenings') goal.outcome? goal'.outcome? := by
  have hides : likeness.hides (.calling register) = true := by simp [Likeness.hides, known]
  cases passing with
  | before => exact .nil_left
  | reached =>
      rw [transcript_reached_hidden _ _ hides]
      exact .nil_left
  | crossed saved path =>
      rw [transcript_reached_hidden _ _ hides, transcript_crossed_hidden _ _ hides]
        at consistent ⊢
      obtain rfl := bridged.outcome_eq rfl known
      refine later _ _ (by omega) _ _ _ _ _ _ ?_ path path' ?_ bridged' ?_ consistent
      · cases result with
        | ok value => exact .iterating (.pure (.refl value)) pendings
        | error failure => exact .iterating (.raise .same) pendings
      · exact bridged.beyond
      · exact hops.mono (List.subset_append_right [_, _, _] _) (List.Subset.refl _)

theorem nested_inStep {registration registration' : Registration Memory}
    (passing : Standing.Passing registration pending token count happenings goal)
    (passing' : Standing.Passing registration' pending' token count' happenings' goal')
    (isNested : registration.isNested = true) (isNested' : registration'.isNested = true)
    (plans : likeness.Plans (.async registration) (.async registration'))
    (pendings : likeness.Stacks pending pending') :
    likeness.InStep (transcript likeness.hides nested none happenings)
      (transcript (fun _ => false) nested' none happenings') goal.outcome? goal'.outcome? := by
  cases passing with
  | before => exact .nil_left
  | @reached saved epoch listed =>
      cases passing' with
      | before => exact .nil_right
      | @reached saved' epoch' listed' =>
          rw [transcript_reached_nested _ _ isNested, transcript_reached_nested _ _ isNested']
            at consistent ⊢
          have inner := hops epoch epoch' _ _ _ _ _ (.tail _ (.head _)) (.tail _ (.head _)) isNested
            plans consistent.of_append
          rw [transcript, List.append_nil, transcript, List.append_nil]
          exact inner.wait
      | @crossed saved' epoch' outcome' count' rest' goal' listed' path' =>
          rw [transcript_reached_nested _ _ isNested, transcript_reached_nested _ _ isNested',
            transcript_crossed_nested _ _ isNested'] at consistent ⊢
          have inner := hops epoch epoch' _ _ _ _ _ (.tail _ (.head _)) (.tail _ (.head _)) isNested
            plans consistent.of_append
          rw [bridged'.told_eq isNested'] at inner
          rw [transcript, List.append_nil]
          exact inner.wait_left
  | @crossed saved epoch outcome count rest goal listed path =>
      cases passing' with
      | before => exact .nil_right
      | @reached saved' epoch' listed' =>
          rw [transcript_reached_nested _ _ isNested, transcript_crossed_nested _ _ isNested,
            transcript_reached_nested _ _ isNested'] at consistent ⊢
          have inner := hops epoch epoch' _ _ _ _ _ (.tail _ (.head _)) (.tail _ (.head _)) isNested
            plans consistent.of_append
          rw [bridged.told_eq isNested] at inner
          rw [transcript, List.append_nil]
          exact inner.wait_right
      | @crossed saved' epoch' outcome' count' rest' goal' listed' path' =>
          rw [transcript_reached_nested _ _ isNested, transcript_crossed_nested _ _ isNested,
            transcript_reached_nested _ _ isNested', transcript_crossed_nested _ _ isNested']
            at consistent ⊢
          have inner := hops epoch epoch' _ _ _ _ _ (.tail _ (.head _)) (.tail _ (.head _)) isNested
            plans consistent.of_append
          rw [bridged.told_eq isNested, bridged'.told_eq isNested'] at inner
          have beyond := consistent.beyond inner.together
            (Nat.le_antisymm (inner.second rfl) (inner.first rfl))
          refine inner.past ?_
          refine later _ _ (by omega) _ _ _ _ _ _
            (.after (inner.outcomes _ _ rfl rfl) pendings token) path path' ?_ ?_ ?_ beyond
          · exact bridged.beyond
          · exact bridged'.beyond
          · exact hops.mono (List.subset_append_right [_, _, _] _)
              (List.subset_append_right [_, _, _] _)

theorem inner_inStep {standing standing' : Standing Memory}
    (standings : likeness.Standings standing standing')
    (path : Standing.Path count standing happenings goal)
    (path' : Standing.Path count' standing' happenings' goal')
    (inner : standing.isPassage canceled = false) :
    likeness.InStep (transcript likeness.hides nested none happenings)
      (transcript (fun _ => false) nested' none happenings') goal.outcome? goal'.outcome? := by
  rcases standings.outcomes with ⟨outcome, other, rfl, rfl, outcomes⟩ | ⟨running, running'⟩
  · obtain ⟨rfl, rfl⟩ := path.of_ended
    obtain ⟨rfl, rfl⟩ := path'.of_ended
    refine ⟨trivial, fun _ => Nat.le_refl _, fun _ => Nat.le_refl _, ?_⟩
    rintro _ _ ⟨⟩ ⟨⟩
    exact outcomes
  · cases path with
    | done =>
        rw [running]
        exact .nil_left
    | @step count _ next goal first rest step path =>
        cases path' with
        | done =>
            rw [running']
            exact .nil_right
        | @step count' _ next' goal' first' rest' step' path' =>
            have known := bridged.mono (List.subset_append_left first rest)
            have known' := bridged'.mono (List.subset_append_left first' rest')
            rw [transcript_append _ _ (step.isPassage known.looks inner),
              transcript_append _ _ (step'.isPassage known'.looks (standings.isPassage inner))]
              at consistent ⊢
            obtain ⟨together, length, reached⟩ := standings.advance step step' inner known.looks
              known'.looks consistent.of_append
            refine .append ?_ together length
            refine later _ _ (by omega) _ _ _ _ _ _ reached path path' ?_ ?_ ?_
              (consistent.beyond together length)
            · exact bridged.mono (List.subset_append_right _ _)
            · exact bridged'.mono (List.subset_append_right _ _)
            · exact hops.mono (List.subset_append_right _ _) (List.subset_append_right _ _)

end Boundaries

/-- Runs that stand at the same place go on in step. -/
theorem stayInStep (count count' : Nat) :
    likeness.StayInStep canceled nested nested' told told' count count' := by
  induction total : count + count' using Nat.strongRecOn generalizing count count' with
  | ind total inductionHypothesis =>
      subst total
      have later (fewer fewer' : Nat) (less : fewer + fewer' < count + count') :
          likeness.StayInStep canceled nested nested' told told' fewer fewer' :=
        inductionHypothesis _ less fewer fewer' rfl
      intro standing standing' happenings happenings' goal goal' standings path path' bridged bridged'
        hops consistent
      cases inner : standing.isPassage canceled with
      | false => exact inner_inStep later bridged bridged' hops consistent standings path path' inner
      | true =>
          obtain ⟨token, passages⟩ := standings.passages path path' bridged.looks bridged'.looks inner
          cases passages with
          | calling passing passing' kept functions pendings =>
              exact calling_inStep later bridged bridged' hops consistent passing passing' kept
                functions pendings
          | replaced passing path' known pendings =>
              exact replaced_inStep later bridged bridged' hops consistent passing path' known pendings
          | nested passing passing' isNested isNested' plans pendings =>
              exact nested_inStep later bridged bridged' hops consistent passing passing' isNested
                isNested' plans pendings

end Likeness

end Trampoline
