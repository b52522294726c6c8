import Trampoline.Proofs.Agreement
import Trampoline.Proofs.Deeds

/-!
How a run follows another one that is a variation of it.

Two runs of programs that are variations of each other do not stand at the same place at the same
time: where frames are grouped or added one of them has to go on alone, and does nothing meanwhile
but call neutral functions.  What one step of each can do is said once, as `Advances`; in every case
the two runs then stand at places that correspond to each other.
-/

namespace Trampoline

variable {Memory : Type}

namespace Standing

variable {standing next goal : Standing Memory} {happenings : List (Happening Memory)}
  {pending : List (Frame Memory)} {token : Token} {asked? : Option (Call Memory)}

theorem Step.stops_or_looks {plan : Plan Memory}
    (step : Step (.iterating plan pending token) happenings next) :
    (happenings = [.looked token true] ∧ next = .ending .canceled) ∨
      (∃ rest, happenings = .looked token false :: rest) ∧ .looked token true ∉ happenings := by
  cases step with
  | stop => exact .inl ⟨rfl, rfl⟩
  | _ => exact .inr ⟨⟨_, rfl⟩, by simp⟩

/-! ### Passing through neutral frames -/

/-- No token is found canceled, and code that is an answer answers. -/
structure Undisturbed (asked? : Option (Call Memory)) (happenings : List (Happening Memory)) :
    Prop where
  live : ∀ token, .looked token true ∉ happenings
  prompt : ∀ call (answer : Answer Memory call.form) happening rest, asked? = some call →
    call.code = .done answer → happenings = happening :: rest → happening = .answered answer

/-- Undisturbed, a run comes to a goal, and calls nothing but neutral functions on the way. -/
inductive Passes (goal : Standing Memory) : Option (Call Memory) → Standing Memory → Prop where
  | here {asked? : Option (Call Memory)} : Passes goal asked? goal
  | step {asked? : Option (Call Memory)} {standing : Standing Memory} (moving : standing.isStill = false)
      (neutral : ∀ happenings next, Step standing happenings next →
        Undisturbed asked? happenings → ∀ deed ∈ deeds happenings,
          ∃ call token, deed = .called call token ∧ call.IsNeutral)
      (goes : ∀ happenings next, Step standing happenings next → Undisturbed asked? happenings →
        Passes goal (unanswered asked? happenings) next) : Passes goal asked? standing

namespace Passes

theorem iterating {result : Result}
    (later : ∀ asked?, Passes goal asked? (.feeding result pending token)) :
    Passes goal asked? (.iterating (.ofResult result) pending token) := by
  have forward {happenings next} (step : Step (.iterating (.ofResult result) pending token)
      happenings next) (undisturbed : Undisturbed asked? happenings) :
      happenings = [.looked token false] ∧ next = .feeding result pending token := by
    cases result with
    | ok | error =>
        cases step.eq_forward (undisturbed.live token) rfl
        exact ⟨rfl, rfl⟩
  refine .step rfl ?_ ?_
  · intro happenings next step undisturbed deed member
    obtain ⟨rfl, -⟩ := forward step undisturbed
    cases member
  · intro happenings next step undisturbed
    obtain ⟨rfl, rfl⟩ := forward step undisturbed
    exact later _

theorem continuing {call : Call Memory} {plan : Plan Memory}
    (ready : ∀ happening rest, Undisturbed (some call) (happening :: rest) →
      happening = .answered (.plan plan))
    (later : ∀ asked?, Passes goal asked? (.iterating plan pending token)) :
    Passes goal (some call) (.calling .continuing pending token) := by
  refine .step rfl ?_ ?_
  · intro happenings next step undisturbed deed member
    cases step with
    | continueAnswer | panic => cases member
  · intro happenings next step undisturbed
    cases step with
    | continueAnswer =>
        cases ready _ _ undisturbed
        exact later _
    | panic => cases ready _ _ undisturbed

theorem mapping {call : Call Memory} {value : Value}
    (ready : ∀ happening rest, Undisturbed (some call) (happening :: rest) →
      happening = .answered (.value value))
    (later : ∀ asked?, Passes goal asked? (.iterating (.pure value) pending token)) :
    Passes goal (some call) (.calling .mapping pending token) := by
  refine .step rfl ?_ ?_
  · intro happenings next step undisturbed deed member
    cases step with
    | mapAnswer | panic => cases member
  · intro happenings next step undisturbed
    cases step with
    | mapAnswer =>
        cases ready _ _ undisturbed
        exact later _
    | panic => cases ready _ _ undisturbed

end Passes

end Standing

/-- A frame turns a result into another one, if at all by a neutral function. -/
inductive Frame.Turns : Frame Memory → Result → Result → Prop where
  | skips {frame result} (refused : ∀ token, frame.call? result token = none) :
      Turns frame result result
  | continues {frame result other value} {next : Value → Code Memory .plan}
      (taken : ∀ token, frame.call? result token = some (.continuing next value))
      (site : frame.site result = .continuing) (neutral : (Call.continuing next value).IsNeutral)
      (code : next value = .done (.plan (.ofResult other))) : Turns frame result other
  | handles {frame result other failure} {handler : Failure → Code Memory .plan}
      (taken : ∀ token, frame.call? result token = some (.handling handler failure))
      (site : frame.site result = .continuing)
      (neutral : (Call.handling handler failure).IsNeutral)
      (code : handler failure = .done (.plan (.ofResult other))) : Turns frame result other
  | maps {frame result other value} {change : Value → Code Memory .value}
      (taken : ∀ token, frame.call? result token = some (.mapping change value))
      (site : frame.site result = .mapping) (neutral : (Call.mapping change value).IsNeutral)
      (code : change value = .done (.value other)) : Turns frame result (.ok other)

section Turns

variable {frame : Frame Memory} {result other : Result} {goal : Standing Memory}
  {pending : List (Frame Memory)} {token : Token} {asked? : Option (Call Memory)}

theorem Frame.passes_of_taken {call : Call Memory}
    (taken : frame.call? result token = some call) (neutral : call.IsNeutral)
    (later : Standing.Passes goal (some call) (.calling (frame.site result) pending token)) :
    Standing.Passes goal asked? (.feeding result (frame :: pending) token) := by
  refine .step rfl ?_ ?_
  · intro happenings next step _ deed member
    cases step with
    | skip => cases member
    | meet same =>
        cases taken.symm.trans same
        cases List.mem_singleton.1 member
        exact ⟨_, _, rfl, neutral⟩
  · intro happenings next step _
    cases step with
    | skip refused => cases refused.symm.trans taken
    | meet same =>
        cases taken.symm.trans same
        exact later

theorem Frame.Turns.passes (turns : frame.Turns result other)
    (later : ∀ asked?, Standing.Passes goal asked? (.feeding other pending token)) :
    Standing.Passes goal asked? (.feeding result (frame :: pending) token) := by
  cases turns with
  | skips refused =>
      refine .step rfl ?_ ?_
      · intro happenings next step _ deed member
        cases step with
        | skip => cases member
        | meet taken => cases (refused _).symm.trans taken
      · intro happenings next step _
        cases step with
        | skip => exact later _
        | meet taken => cases (refused _).symm.trans taken
  | continues taken site neutral code =>
      refine Frame.passes_of_taken (taken token) neutral ?_
      rw [site]
      exact .continuing (fun _ _ undisturbed => undisturbed.prompt _ _ _ _ rfl code rfl)
        fun _ => .iterating later
  | handles taken site neutral code =>
      refine Frame.passes_of_taken (taken token) neutral ?_
      rw [site]
      exact .continuing (fun _ _ undisturbed => undisturbed.prompt _ _ _ _ rfl code rfl)
        fun _ => .iterating later
  | maps taken site neutral code =>
      refine Frame.passes_of_taken (taken token) neutral ?_
      rw [site]
      exact .mapping (fun _ _ undisturbed => undisturbed.prompt _ _ _ _ rfl code rfl)
        fun _ => .iterating later

theorem Wrapper.passes (wrapper : Wrapper) (result : Result) :
    Standing.Passes (.feeding result pending token) asked?
      (.feeding result (wrapper.frames ++ pending) token) := by
  have here (asked? : Option (Call Memory)) :
      Standing.Passes (.feeding result pending token) asked? (.feeding result pending token) :=
    .here
  cases wrapper with
  | bindPure =>
      cases result with
      | ok value => exact (Frame.Turns.continues (fun _ => rfl) rfl .pure rfl).passes here
      | error failure => exact (Frame.Turns.skips fun _ => rfl).passes here
  | mapSame =>
      cases result with
      | ok value => exact (Frame.Turns.maps (fun _ => rfl) rfl .same rfl).passes here
      | error failure => exact (Frame.Turns.skips fun _ => rfl).passes here
  | handleRaise | mapSameFailure =>
      cases result with
      | ok value => exact (Frame.Turns.skips fun _ => rfl).passes here
      | error failure => exact (Frame.Turns.handles (fun _ => rfl) rfl .raise rfl).passes here
  | redeemRaisePure =>
      cases result with
      | ok value => exact (Frame.Turns.continues (fun _ => rfl) rfl .pure rfl).passes here
      | error failure => exact (Frame.Turns.handles (fun _ => rfl) rfl .raise rfl).passes here
  | attempt =>
      have recorded (asked? : Option (Call Memory)) :
          Standing.Passes (.feeding result pending token) asked?
            (.feeding (.ok (.attempt result)) (.bind answerRecorded :: pending) token) :=
        (Frame.Turns.continues (fun _ => rfl) rfl .recorded rfl).passes here
      cases result with
      | ok value =>
          exact (Frame.Turns.continues (fun _ => rfl) rfl .recordValue rfl).passes recorded
      | error failure =>
          exact (Frame.Turns.handles (fun _ => rfl) rfl .recordFailure rfl).passes recorded

end Turns

namespace Variation

variable (variation : Variation Memory)

inductive Sites : Site Memory → Site Memory → Prop where
  | suspended {onPanic onPanic'}
      (functions : variation.functions (.naming onPanic) (.naming onPanic')) :
      Sites (.suspended onPanic) (.suspended onPanic')
  | delayed {onPanic onPanic'}
      (functions : variation.functions (.naming onPanic) (.naming onPanic')) :
      Sites (.delayed onPanic) (.delayed onPanic')
  | namingSuspended : Sites .namingSuspended .namingSuspended
  | namingDelayed : Sites .namingDelayed .namingDelayed
  | continuing : Sites .continuing .continuing
  | mapping : Sites .mapping .mapping
  | switching {source source' restore restore'} (sources : variation.Plans source source')
      (restores : variation.Restores restore restore') :
      Sites (.switching source restore) (.switching source' restore')
  | restoring {result other} (results : variation.Results result other) :
      Sites (.restoring result) (.restoring other)

/-- Where two runs stand that follow each other, with the calls that are not replied to. -/
inductive Standings : Option (Call Memory) → Standing Memory → Option (Call Memory) →
    Standing Memory → Prop where
  | iterating {asked? asked'? plan plan' head head' frames frames' pending pending' token}
      (first : plan.Descends frames head) (second : plan'.Descends frames' head')
      (heads : variation.Heads head (frames ++ pending) head' (frames' ++ pending')) :
      Standings asked? (.iterating plan pending token) asked'? (.iterating plan' pending' token)
  /-- A failure, to a continuation that has been grouped with the one that failed. -/
  | dropping {asked? asked'? failure failure' next pending pending' token}
      (failures : variation.Failures failure failure')
      (pendings : variation.Stacks pending pending') :
      Standings asked? (.iterating (.raise failure) (.bind next :: pending) token) asked'?
        (.iterating (.raise failure') pending' token)
  | feeding {asked? asked'? result result' pending pending' token}
      (results : variation.Results result result') (pendings : variation.Stacks pending pending') :
      Standings asked? (.feeding result pending token) asked'? (.feeding result' pending' token)
  | skipping {asked? asked'? failure failure' next pending pending' token}
      (failures : variation.Failures failure failure')
      (pendings : variation.Stacks pending pending') :
      Standings asked? (.feeding (.error failure) (.bind next :: pending) token) asked'?
        (.feeding (.error failure') pending' token)
  /-- The second run passes through the frames of a wrapper. -/
  | passing {asked? asked'? result result' pending pending' token standing'}
      (law : variation.laws .wrapping) (results : variation.Results result result')
      (pendings : variation.Stacks pending pending')
      (passes : Standing.Passes (.feeding result' pending' token) asked'? standing') :
      Standings asked? (.feeding result pending token) asked'? standing'
  | calling {call call' site site' pending pending' token}
      (calls : variation.toLikeness.Calls call call') (sites : variation.Sites site site')
      (pendings : variation.Stacks pending pending') :
      Standings (some call) (.calling site pending token) (some call')
        (.calling site' pending' token)
  | grouped {first first' next next' value value' pending pending' token}
      (law : variation.laws .grouping)
      (firsts : variation.functions (.continuing first) (.continuing first'))
      (nexts : variation.functions (.continuing next) (.continuing next'))
      (values : variation.Values value value')
      (pendings : variation.Stacks pending pending') :
      Standings (some (.continuing first value)) (.calling .continuing (.bind next :: pending) token)
        (some (.continuing (Trampoline.grouped first' next') value'))
        (.calling .continuing pending' token)
  | started {next next' value value' pending pending' token} (law : variation.laws .starting)
      (functions : variation.functions (.continuing next) (.continuing next'))
      (values : variation.Values value value')
      (pendings : variation.Stacks pending pending') :
      Standings (some (.continuing next value)) (.calling .continuing pending token)
        (some (.suspended fun _ => next' value'))
        (.calling (.suspended Code.panicked) pending' token)
  /-- A panic of a continuation, which is named if a thunk has called it. -/
  | naming {asked? panic panic' pending pending' token} (law : variation.laws .starting)
      (panics : variation.panics panic panic') (pendings : variation.Stacks pending pending') :
      Standings asked? (.iterating (.raise (.panicked panic)) pending token)
        (some (.naming Code.panicked panic')) (.calling .namingSuspended pending' token)
  | suspended {asked? asked'? epoch pending pending' token}
      (pendings : variation.Stacks pending pending') :
      Standings asked? (.suspended epoch pending token) asked'? (.suspended epoch pending' token)
  | ending {asked? asked'? outcome other} (outcomes : variation.Outcomes outcome other) :
      Standings asked? (.ending outcome) asked'? (.ending other)
  | ended {asked? asked'? outcome other} (outcomes : variation.Outcomes outcome other) :
      Standings asked? (.ended outcome) asked'? (.ended other)

/-- What two runs are given in a step of each. -/
structure Tuned (asked? asked'? : Option (Call Memory))
    (happenings happenings' : List (Happening Memory)) : Prop where
  looked : ∀ token found found', .looked token found ∈ happenings →
    .looked token found' ∈ happenings' → found = found'
  recalled : ∀ kept kept' plan plan', .recalled kept plan ∈ happenings →
    .recalled kept' plan' ∈ happenings' → variation.Plans plan plan'
  replied : ∀ call call' next? happening happening' rest rest', asked? = some call →
    asked'? = some call' → variation.Calls call call' next? → happenings = happening :: rest →
      happenings' = happening' :: rest' → variation.Replies next? happening happening'
  reached : ∀ epoch epoch', (∃ happening ∈ happenings, happening.epoch? = some epoch) →
    (∃ happening ∈ happenings', happening.epoch? = some epoch') → epoch = epoch'
  crossed : ∀ epoch outcome outcome', .crossed epoch outcome ∈ happenings →
    .crossed epoch outcome' ∈ happenings' → variation.Outcomes outcome outcome'
  prompt : ∀ call (answer : Answer Memory call.form) happening rest, asked'? = some call →
    call.code = .done answer → happenings' = happening :: rest → happening = .answered answer
  /-- A grouped continuation goes on with the second of the two. -/
  bound : ∀ first next value plan rest,
    asked'? = some (.continuing (Trampoline.grouped first next) value) →
      happenings' = .answered (.plan plan) :: rest → ∃ source, plan = .bind source next
  live : variation.laws .wrapping → ∀ token, .looked token true ∉ happenings'

/-- What a step of each of two runs comes to: both do alike, or one goes on alone, or the first has
to take another step before it does what the second has done. -/
inductive Advances (asked? asked'? : Option (Call Memory)) (standing standing' : Standing Memory)
    (happenings happenings' : List (Happening Memory)) (next next' : Standing Memory) : Prop where
  | both (alike : variation.Matches (deeds happenings) (deeds happenings'))
      (standings : variation.Standings (unanswered asked? happenings) next
        (unanswered asked'? happenings') next')
  | first (quiet : deeds happenings = [])
      (standings : variation.Standings (unanswered asked? happenings) next asked'? standing')
  | second (neutral : variation.Matches [] (deeds happenings'))
      (standings : variation.Standings asked? standing (unanswered asked'? happenings') next')
  | late (quiet : deeds happenings = []) (moving : next.isStill = false)
      (later : ∀ more goal, Standing.Step next more goal →
        variation.Matches (deeds more) (deeds happenings') ∧
          variation.Standings (unanswered asked? (happenings ++ more)) goal
            (unanswered asked'? happenings') next')

variable {variation}

section Advance

variable {asked? asked'? : Option (Call Memory)} {happenings happenings' : List (Happening Memory)}
  {standing standing' next next' : Standing Memory} {pending pending' : List (Frame Memory)}
  {token : Token}

theorem Tuned.undisturbed (tuned : variation.Tuned asked? asked'? happenings happenings')
    (law : variation.laws .wrapping) : Standing.Undisturbed asked'? happenings' :=
  ⟨tuned.live law, tuned.prompt⟩

theorem Matches.of_neutral (law : variation.laws .starting ∨ variation.laws .wrapping)
    {done : List (Happening Memory)}
    (neutral : ∀ deed ∈ done, ∃ call token, deed = .called call token ∧ call.IsNeutral) :
    variation.Matches [] done := by
  induction done with
  | nil => exact .nil
  | cons deed done inductionHypothesis =>
      obtain ⟨call, token, rfl, isNeutral⟩ := neutral _ (.head _)
      exact .besides law isNeutral (inductionHypothesis fun deed member => neutral _ (.tail _ member))

theorem Plans.standings {plan plan' : Plan Memory} (plans : variation.Plans plan plan')
    (pendings : variation.Stacks pending pending') (token : Token) :
    variation.Standings asked? (.iterating plan pending token) asked'?
      (.iterating plan' pending' token) := by
  cases plans with
  | descend first second heads => exact .iterating first second (heads.append pendings)

theorem Standings.raise {failure failure' : Failure}
    (failures : variation.Failures failure failure') (pendings : variation.Stacks pending pending')
    (token : Token) :
    variation.Standings asked? (.iterating (.raise failure) pending token) asked'?
      (.iterating (.raise failure') pending' token) :=
  .iterating .here .here (.raise failures pendings)

theorem Standings.pure {value value' : Value} (values : variation.Values value value')
    (pendings : variation.Stacks pending pending') (token : Token) :
    variation.Standings asked? (.iterating (.pure value) pending token) asked'?
      (.iterating (.pure value') pending' token) :=
  .iterating .here .here (.pure values pendings)

theorem Tuned.stop_or_live {plan plan' : Plan Memory}
    (tuned : variation.Tuned asked? asked'? happenings happenings')
    (step : Standing.Step (.iterating plan pending token) happenings next)
    (step' : Standing.Step (.iterating plan' pending' token) happenings' next') :
    variation.Advances asked? asked'? standing standing' happenings happenings' next next' ∨
      .looked token true ∉ happenings ∧ .looked token true ∉ happenings' := by
  rcases step.stops_or_looks with ⟨rfl, rfl⟩ | ⟨⟨rest, rfl⟩, live⟩
  · rcases step'.stops_or_looks with ⟨rfl, rfl⟩ | ⟨⟨rest', rfl⟩, live'⟩
    · exact .inl (.both .nil (.ending .canceled))
    · cases tuned.looked _ _ _ (.head _) (.head _)
  · rcases step'.stops_or_looks with ⟨rfl, rfl⟩ | ⟨⟨rest', rfl⟩, live'⟩
    · cases tuned.looked _ _ _ (.head _) (.head _)
    · exact .inr ⟨live, live'⟩

theorem Heads.advance {head head' : Plan Memory}
    (heads : variation.Heads head pending head' pending')
    (step : Standing.Step (.iterating head pending token) happenings next)
    (step' : Standing.Step (.iterating head' pending' token) happenings' next')
    (tuned : variation.Tuned asked? asked'? happenings happenings')
    (live : .looked token true ∉ happenings) (live' : .looked token true ∉ happenings') :
    variation.Advances asked? asked'? (.iterating head pending token)
      (.iterating head' pending' token) happenings happenings' next next' := by
  cases heads with
  | pure values pendings =>
      cases step.eq_forward live rfl
      cases step'.eq_forward live' rfl
      exact .both .nil (.feeding (.ok values) pendings)
  | raise failures pendings =>
      cases step.eq_forward live rfl
      cases step'.eq_forward live' rfl
      exact .both .nil (.feeding (.error failures) pendings)
  | suspendWith thunks functions pendings =>
      cases step.eq_forward live rfl
      cases step'.eq_forward live' rfl
      exact .both (.one (.called (.alike (.suspended thunks))))
        (.calling (.suspended thunks) (.suspended functions) pendings)
  | delayWith thunks functions pendings =>
      cases step.eq_forward live rfl
      cases step'.eq_forward live' rfl
      exact .both (.one (.called (.alike (.delayed thunks))))
        (.calling (.delayed thunks) (.delayed functions) pendings)
  | async registrations pendings =>
      obtain ⟨⟨rest, rfl⟩, -⟩ :=
        step.stops_or_looks.resolve_left fun stops => live (stops.1 ▸ .head _)
      obtain ⟨⟨rest', rfl⟩, -⟩ :=
        step'.stops_or_looks.resolve_left fun stops => live' (stops.1 ▸ .head _)
      obtain ⟨epoch, saved, rfl, rfl, rfl⟩ := step.of_async
      obtain ⟨epoch', saved', rfl, rfl, rfl⟩ := step'.of_async
      obtain rfl := tuned.reached epoch epoch' ⟨_, .tail _ (.head _), rfl⟩
        ⟨_, .tail _ (.head _), rfl⟩
      exact .both (.one (.reached registrations pendings)) (.suspended pendings)
  | continueOn sources pendings =>
      cases step.eq_forward live rfl
      cases step'.eq_forward live' rfl
      exact .both .nil (.iterating .here .here (.async (.hopping sources) pendings))
  | switch sources functions restores pendings =>
      cases step.eq_forward live rfl
      cases step'.eq_forward live' rfl
      exact .both (.one (.called (.alike (.switching functions))))
        (.calling (.switching functions) (.switching sources restores) pendings)
  | held pendings =>
      obtain ⟨found, rfl, rfl⟩ := step.of_held live
      obtain ⟨found', rfl, rfl⟩ := step'.of_held live'
      have plans := tuned.recalled _ _ _ _ (.tail _ (.head _)) (.tail _ (.head _))
      exact .both (.one (.recalled plans)) (plans.standings pendings token)
  | started law values functions pendings =>
      -- The value still has to be fed to the continuation that the thunk has called already.
      cases step.eq_forward live rfl
      cases step'.eq_forward live' rfl
      refine .late rfl rfl ?_
      intro more goal step
      cases step with
      | skip refused => cases refused
      | meet taken =>
          cases taken
          exact ⟨.one (.called (.started law functions values)),
            .started law functions values pendings⟩

theorem Standings.advance_iterating {plan plan' head head' : Plan Memory}
    {frames frames' : List (Frame Memory)} (first : plan.Descends frames head)
    (second : plan'.Descends frames' head')
    (heads : variation.Heads head (frames ++ pending) head' (frames' ++ pending'))
    (step : Standing.Step (.iterating plan pending token) happenings next)
    (step' : Standing.Step (.iterating plan' pending' token) happenings' next')
    (tuned : variation.Tuned asked? asked'? happenings happenings') :
    variation.Advances asked? asked'? (.iterating plan pending token)
      (.iterating plan' pending' token) happenings happenings' next next' := by
  rcases tuned.stop_or_live step step' with stop | ⟨live, live'⟩
  · exact stop
  · cases first with
    | push sequencing descends =>
        cases step.eq_forward live (Standing.forward?_of_frame? sequencing _ _)
        rw [List.append_assoc] at heads
        exact .first rfl (.iterating descends second heads)
    | here =>
        cases second with
        | push sequencing descends =>
            cases step'.eq_forward live' (Standing.forward?_of_frame? sequencing _ _)
            rw [List.append_assoc] at heads
            exact .second .nil (.iterating .here descends heads)
        | here => exact Heads.advance heads step step' tuned live live'

theorem advance_passing {result result' : Result} (law : variation.laws .wrapping)
    (results : variation.Results result result') (pendings : variation.Stacks pending pending')
    (passes : Standing.Passes (.feeding result' pending' token) asked'? standing')
    (before : standing' ≠ .feeding result' pending' token)
    (step' : Standing.Step standing' happenings' next')
    (tuned : variation.Tuned asked? asked'? happenings happenings') :
    variation.Advances asked? asked'? (.feeding result pending token) standing' happenings
      happenings' next next' := by
  have undisturbed := tuned.undisturbed law
  cases passes with
  | here => exact absurd rfl before
  | step moving neutral goes =>
      exact .second (.of_neutral (.inr law) (neutral _ _ step' undisturbed))
        (.passing law results pendings (goes _ _ step' undisturbed))

theorem Stacks.advance {result result' : Result} (results : variation.Results result result')
    (pendings : variation.Stacks pending pending')
    (step : Standing.Step (.feeding result pending token) happenings next)
    (step' : Standing.Step (.feeding result' pending' token) happenings' next')
    (tuned : variation.Tuned asked? asked'? happenings happenings') :
    variation.Advances asked? asked'? (.feeding result pending token)
      (.feeding result' pending' token) happenings happenings' next next' := by
  have goes := Standing.step_feeding_iff.1 step
  have goes' := Standing.step_feeding_iff.1 step'
  cases pendings with
  | nil =>
      cases goes
      cases goes'
      refine .both .nil (.ending ?_)
      cases results with
      | ok values => exact .completed values
      | error failures => exact .failed failures
  | cons frames pendings =>
      rcases frames.call? results token with
        ⟨refused, refused'⟩ | ⟨call, call', taken, taken', calls, sites⟩
      · cases (Standing.fed_of_refused refused).symm.trans goes
        cases (Standing.fed_of_refused refused').symm.trans goes'
        exact .both .nil (.feeding results pendings)
      · cases (Standing.fed_of_taken taken).symm.trans goes
        cases (Standing.fed_of_taken taken').symm.trans goes'
        refine .both (.one (.called (.alike calls))) (.calling calls ?_ pendings)
        cases frames <;> cases sites <;> constructor
        assumption
  | grouped law firsts nexts pendings =>
      cases results with
      | ok values =>
          cases goes
          cases goes'
          exact .both (.one (.called (.grouped law firsts values _)))
            (.grouped law firsts nexts values pendings)
      | error failures =>
          cases goes
          cases goes'
          exact .both .nil (.skipping failures pendings)
  | @wrapped _ below law wrapper pendings =>
      have passes : Standing.Passes (.feeding result' below token) asked'?
          (.feeding result' (wrapper.frames ++ below) token) :=
        wrapper.passes result'
      refine advance_passing law results pendings passes ?_ step' tuned
      intro same
      injection same with _ same _
      exact wrapper.frames_ne_nil (List.append_left_eq_self.1 same)

theorem Sites.answered {site site' : Site Memory} {form : Form} {answer answer' : Answer Memory form}
    (sites : variation.Sites site site') (pendings : variation.Stacks pending pending')
    (answers : variation.Answers answer answer')
    (goes : site.answered? answer pending token = some next)
    (goes' : site'.answered? answer' pending' token = some next') :
    variation.Standings asked? next asked'? next' := by
  cases answers with
  | plan plans =>
      cases sites <;> cases goes
      all_goals
        cases goes'
        exact plans.standings pendings token
  | value values =>
      cases sites <;> cases goes <;> cases goes'
      · exact .feeding (.ok values) pendings
      · exact .pure values pendings token
  | failure failures =>
      cases sites <;> cases goes <;> cases goes'
      · exact .raise failures pendings token
      · exact .feeding (.error failures) pendings
  | @token other =>
      cases sites with
      | switching sources restores =>
          -- Both runs compare the token that they are given with the active one.
          simp only [Site.answered?] at goes goes'
          split at goes
          · rename_i same
            rw [if_pos same] at goes'
            cases goes
            cases goes'
            exact sources.standings pendings token
          · rename_i different
            rw [if_neg different] at goes'
            cases goes
            cases goes'
            cases restores with
            | none => exact sources.standings pendings other
            | some functions => exact sources.standings (.cons (.restore functions) pendings) other
      | restoring results =>
          cases goes
          cases goes'
          cases results with
          | ok values => exact .pure values pendings other
          | error failures => exact .raise failures pendings other
      | _ => cases goes

theorem Sites.panicked {site site' : Site Memory} {panic panic' : Panic}
    (sites : variation.Sites site site') (pendings : variation.Stacks pending pending')
    (panics : variation.panics panic panic') :
    variation.Advances asked? asked'? standing standing'
      (.panicked panic :: (site.panicked panic pending token).1)
      (.panicked panic' :: (site'.panicked panic' pending' token).1)
      (site.panicked panic pending token).2 (site'.panicked panic' pending' token).2 := by
  cases sites with
  | suspended functions =>
      have calls := Likeness.Calls.naming functions panics
      exact .both (.one (.called (.alike calls))) (.calling calls .namingSuspended pendings)
  | delayed functions =>
      have calls := Likeness.Calls.naming functions panics
      exact .both (.one (.called (.alike calls))) (.calling calls .namingDelayed pendings)
  | namingDelayed => exact .both .nil (.feeding (.error (.panicked panics)) pendings)
  | _ => exact .both .nil (.raise (.panicked panics) pendings token)

theorem Sites.advance {site site' : Site Memory} {call call' : Call Memory}
    (calls : variation.toLikeness.Calls call call') (sites : variation.Sites site site')
    (pendings : variation.Stacks pending pending')
    (step : Standing.Step (.calling site pending token) happenings next)
    (step' : Standing.Step (.calling site' pending' token) happenings' next')
    (tuned : variation.Tuned (some call) (some call') happenings happenings') :
    variation.Advances (some call) (some call') (.calling site pending token)
      (.calling site' pending' token) happenings happenings' next next' := by
  have replied {happening happening' rest rest'} :=
    tuned.replied call call' none happening happening' rest rest' rfl rfl (.alike calls)
  cases Standing.step_calling_iff.1 step with
  | answered goes =>
      cases Standing.step_calling_iff.1 step' with
      | answered goes' =>
          cases replied rfl rfl with
          | answered answers => exact .both .nil (sites.answered pendings answers goes goes')
      | panicked => cases replied rfl rfl
  | panicked panic =>
      cases Standing.step_calling_iff.1 step' with
      | answered => cases replied rfl rfl
      | panicked panic' => exact sites.panicked pendings (replied rfl rfl).panics

/-- What two runs come to that follow each other, when each of them takes a step. -/
theorem Standings.advance (standings : variation.Standings asked? standing asked'? standing')
    (step : Standing.Step standing happenings next)
    (step' : Standing.Step standing' happenings' next')
    (tuned : variation.Tuned asked? asked'? happenings happenings') :
    variation.Advances asked? asked'? standing standing' happenings happenings' next next' := by
  cases standings with
  | iterating first second heads => exact advance_iterating first second heads step step' tuned
  | dropping failures pendings =>
      rcases tuned.stop_or_live step step' with stop | ⟨live, live'⟩
      · exact stop
      · cases step.eq_forward live rfl
        cases step'.eq_forward live' rfl
        exact .both .nil (.skipping failures pendings)
  | feeding results pendings => exact pendings.advance results step step' tuned
  | skipping failures pendings =>
      cases step with
      | meet taken => cases taken
      | skip => exact .first rfl (.feeding (.error failures) pendings)
  | @passing _ _ result result' pending pending' token _ law results pendings passes =>
      by_cases arrived : standing' = .feeding result' pending' token
      · subst arrived
        exact pendings.advance results step step' tuned
      · exact advance_passing law results pendings passes arrived step' tuned
  | calling calls sites pendings => exact sites.advance calls pendings step step' tuned
  | @grouped first first' last last' value value' pending pending' token law firsts nexts values
      pendings =>
      have replied {happening happening' rest rest'} :=
        tuned.replied _ _ (some last') happening happening' rest rest' rfl rfl
          (.grouped law firsts values last')
      cases step with
      | continueAnswer =>
          cases step' with
          | continueAnswer =>
              obtain ⟨source, rfl⟩ := tuned.bound _ _ _ _ _ rfl rfl
              cases (replied rfl rfl).grouped_plans with
              | descend descends descends' heads =>
                  refine .both .nil (.iterating descends (.push rfl descends') ?_)
                  rw [List.append_assoc]
                  exact heads.append (.cons (.bind nexts) pendings)
          | panic => cases replied rfl rfl
      | panic =>
          cases step' with
          | continueAnswer => cases replied rfl rfl
          | panic =>
              have panics := (replied rfl rfl).panics
              exact .both .nil (.dropping (.panicked panics) pendings)
  | started law functions values pendings =>
      have replied {happening happening' rest rest'} :=
        tuned.replied _ _ none happening happening' rest rest' rfl rfl
          (.started law functions values)
      cases step with
      | continueAnswer =>
          cases step' with
          | suspendAnswer =>
              have plans := (replied rfl rfl).plans
              exact .both .nil (plans.standings pendings _)
          | suspendPanic => cases replied rfl rfl
          | panic raises => cases raises
      | panic =>
          cases step' with
          | suspendAnswer => cases replied rfl rfl
          | suspendPanic =>
              have panics := (replied rfl rfl).panics
              exact .both (.besides (.inl law) .panicked .nil) (.naming law panics pendings)
          | panic raises => cases raises
  | naming law panics pendings =>
      -- The panic is named by a neutral function.
      have named {happening rest} := tuned.prompt _ _ happening rest rfl rfl
      cases step' with
      | nameSuspendedAnswer =>
          cases named rfl
          exact .second .nil (.raise (.panicked panics) pendings _)
      | panic => cases named rfl
  | suspended pendings =>
      cases step
      cases step'
      obtain values | failures | _ := tuned.crossed _ _ _ (.head _) (.head _)
      · exact .both .nil (.pure values pendings _)
      · exact .both .nil (.raise failures pendings _)
      · exact .both .nil (.ending .canceled)
  | ending outcomes =>
      cases step
      cases step'
      exact .both (.one (.told outcomes)) (.ended outcomes)
  | ended => cases step

end Advance

end Variation

end Trampoline
