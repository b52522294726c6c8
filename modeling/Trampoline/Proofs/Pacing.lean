import Trampoline.Proofs.Following
import Trampoline.Proofs.Shielding

/-!
Runs that follow each other do alike.

Two runs are compared from their first step on.  As long as they have done alike, what they are
given has to be alike: what code replies, what is found under a number, and what a look at the token
finds.  Then the one does all that the other does, or is behind, however often either of them goes
on alone.  The induction is on how many steps both have left.
-/

namespace Trampoline

variable {Memory : Type}

namespace Standing

variable {standing next : Standing Memory} {happenings : List (Happening Memory)}

theorem awaited?_of_moving (moving : standing.isStill = false) : standing.awaited? = none := by
  cases standing <;> first | rfl | cases moving

namespace Step

variable (step : Step standing happenings next)
include step

theorem of_looked {token : Token} {found : Bool} (member : .looked token found ∈ happenings) :
    ∃ rest, happenings = .looked token found :: rest := by
  cases step <;> simp at member <;> simp [member]

theorem of_recalled {kept : Nat} {plan : Plan Memory} (member : .recalled kept plan ∈ happenings) :
    ∃ token, happenings = [.looked token false, .recalled kept plan] := by
  cases step <;> simp at member
  obtain ⟨rfl, rfl⟩ := member
  exact ⟨_, rfl⟩

theorem of_epoch? {epoch : Nat}
    (reached : ∃ happening ∈ happenings, happening.epoch? = some epoch) :
    ∃ token registration saved, happenings =
      [.looked token false, .reached epoch registration token saved] := by
  obtain ⟨happening, member, numbered⟩ := reached
  cases happening <;> cases numbered
  cases step <;> simp at member
  obtain ⟨rfl, rfl, rfl, rfl⟩ := member
  exact ⟨_, _, _, rfl⟩

theorem awaited?_of_crossed {epoch : Nat} {outcome : Outcome Value}
    (member : .crossed epoch outcome ∈ happenings) : standing.awaited? = some epoch := by
  cases step <;> simp at member
  obtain ⟨rfl, rfl⟩ := member
  rfl

theorem epoch?_of_awaited? {epoch : Nat} (awaited : next.awaited? = some epoch) :
    ∃ happening ∈ deeds happenings, happening.epoch? = some epoch := by
  cases step with
  | reach =>
      cases awaited
      exact ⟨_, .head _, rfl⟩
  | @cross _ _ _ outcome => cases outcome <;> cases awaited
  | _ => cases awaited

end Step

end Standing

theorem Numbered.epoch_eq {front rest : List (Happening Memory)} {happening : Happening Memory}
    {epoch : Nat} (numbered : Numbered 0 (front ++ happening :: rest))
    (here : happening.epoch? = some epoch) :
    epoch = (front.filterMap Happening.epoch?).length + 1 := by
  obtain ⟨count, listed⟩ := numbered
  rw [List.filterMap_append, List.filterMap_cons_some here] at listed
  have position := congrArg (·[(front.filterMap Happening.epoch?).length]?) listed
  simp only [List.getElem?_append_right (Nat.le_refl _), Nat.sub_self, List.getElem?_cons_zero]
    at position
  obtain ⟨_, same⟩ := List.getElem?_eq_some_iff.1 position.symm
  rw [List.getElem_range'] at same
  omega

namespace Variation

variable (variation : Variation Memory)

/-- As long as two runs do alike, what others than functions give them is alike. -/
structure Concord (whole whole' : List (Happening Memory)) : Prop where
  looked : ∀ front rest front' rest' token found found',
    whole = front ++ .looked token found :: rest →
      whole' = front' ++ .looked token found' :: rest' →
        variation.Matches (deeds front) (deeds front') → found = found'
  recalled : ∀ front rest front' rest' kept kept' plan plan',
    whole = front ++ .recalled kept plan :: rest →
      whole' = front' ++ .recalled kept' plan' :: rest' →
        variation.Matches (deeds front) (deeds front') → variation.Plans plan plan'

/-- As long as two runs do alike, what they call for the same is replied to alike. -/
def ReplyAlike (whole whole' : List (Happening Memory)) : Prop :=
  ∀ front happening rest front' happening' rest' call call' token token' next?,
    whole = front ++ .called call token :: happening :: rest →
      whole' = front' ++ .called call' token' :: happening' :: rest' →
        variation.Matches (deeds (front ++ [.called call token]))
          (deeds (front' ++ [.called call' token'])) →
            variation.Calls call call' next? → variation.Replies next? happening happening'

/-- What is known besides of two runs. -/
structure Setting (whole whole' : List (Happening Memory)) : Prop where
  concord : variation.Concord whole whole'
  replied : variation.ReplyAlike whole whole'
  numbered : Numbered 0 whole
  numbered' : Numbered 0 whole'
  /-- Boundaries that are reached alike complete alike. -/
  settles : ∀ epoch happening other outcome outcome', happening ∈ whole → other ∈ whole' →
    happening.epoch? = some epoch → variation.Deeds happening other →
      .crossed epoch outcome ∈ whole → .crossed epoch outcome' ∈ whole' →
        variation.Outcomes outcome outcome'
  answered : Answered whole'
  /-- Grouped continuations go on with the second of the two. -/
  bound : ∀ before first next value token plan after,
    whole' = before ++ .called (.continuing (Trampoline.grouped first next) value) token ::
      .answered (.plan plan) :: after → ∃ source, plan = .bind source next
  live : variation.laws .wrapping → ∀ token, .looked token true ∉ whole'

/-- Two runs do alike as far as both have gone; one that stays where it is has done all that the
other has, unless the other has crossed the boundary that it is at. -/
structure Paces (happenings : List (Happening Memory)) (goal : Standing Memory)
    (happenings' : List (Happening Memory)) (goal' : Standing Memory) : Prop where
  together : Within variation.Matches (deeds happenings) (deeds happenings') ∨
    Covers variation.Matches (deeds happenings) (deeds happenings')
  first : goal.isStill = true → Covers variation.Matches (deeds happenings) (deeds happenings') ∨
    ∃ epoch outcome, goal.awaited? = some epoch ∧ .crossed epoch outcome ∈ happenings'
  second : goal'.isStill = true → Within variation.Matches (deeds happenings) (deeds happenings') ∨
    ∃ epoch outcome, goal'.awaited? = some epoch ∧ .crossed epoch outcome ∈ happenings
  both : goal.isStill = true → goal'.isStill = true →
    variation.Matches (deeds happenings) (deeds happenings') ∨
      ∃ epoch outcome, (goal.awaited? = some epoch ∧ .crossed epoch outcome ∈ happenings') ∨
        (goal'.awaited? = some epoch ∧ .crossed epoch outcome ∈ happenings)

variable {variation}

theorem Standings.still {asked? asked'? : Option (Call Memory)} {standing standing' : Standing Memory}
    (standings : variation.Standings asked? standing asked'? standing') :
    standing.isStill = standing'.isStill ∧ standing.awaited? = standing'.awaited? := by
  cases standings with
  | passing law results pendings passes =>
      cases passes with
      | here => exact ⟨rfl, rfl⟩
      | step moving => exact ⟨moving.symm, (Standing.awaited?_of_moving moving).symm⟩
  | _ => exact ⟨rfl, rfl⟩

section Lists

variable {done done' rest rest' : List (Happening Memory)}

theorem Matches.within (alike : variation.Matches done done')
    (later : Within variation.Matches rest rest') :
    Within variation.Matches (done ++ rest) (done' ++ rest') := by
  obtain ⟨front, isFront, same⟩ := later
  exact ⟨done' ++ front, List.prefix_append_right_inj _ |>.2 isFront, alike.append same⟩

theorem Matches.covers (alike : variation.Matches done done')
    (later : Covers variation.Matches rest rest') :
    Covers variation.Matches (done ++ rest) (done' ++ rest') := by
  obtain ⟨front, isFront, same⟩ := later
  exact ⟨done ++ front, List.prefix_append_right_inj _ |>.2 isFront, alike.append same⟩

theorem within_nil : Within variation.Matches [] done := ⟨[], List.nil_prefix, .nil⟩

theorem covers_nil : Covers variation.Matches done [] := ⟨[], List.nil_prefix, .nil⟩

end Lists

namespace Paces

variable {happenings happenings' rest rest' : List (Happening Memory)}
  {goal goal' : Standing Memory}

theorem append (alike : variation.Matches (deeds happenings) (deeds happenings'))
    (later : variation.Paces rest goal rest' goal') :
    variation.Paces (happenings ++ rest) goal (happenings' ++ rest') goal' := by
  constructor
  · rw [deeds_append, deeds_append]
    exact later.together.imp alike.within alike.covers
  · intro still
    rw [deeds_append, deeds_append]
    refine (later.first still).imp alike.covers ?_
    rintro ⟨epoch, outcome, awaited, crossed⟩
    exact ⟨epoch, outcome, awaited, List.mem_append_right _ crossed⟩
  · intro still
    rw [deeds_append, deeds_append]
    refine (later.second still).imp alike.within ?_
    rintro ⟨epoch, outcome, awaited, crossed⟩
    exact ⟨epoch, outcome, awaited, List.mem_append_right _ crossed⟩
  · intro still still'
    rw [deeds_append, deeds_append]
    refine (later.both still still').imp alike.append ?_
    rintro ⟨epoch, outcome, crosses⟩
    exact ⟨epoch, outcome, crosses.imp (And.imp_right (List.mem_append_right _))
      (And.imp_right (List.mem_append_right _))⟩

variable {asked? asked'? : Option (Call Memory)}

theorem of_first_done (standings : variation.Standings asked? goal asked'? goal')
    {count : Nat} {last : Standing Memory} (path : Standing.Path count goal' happenings' last) :
    variation.Paces [] goal happenings' last := by
  obtain ⟨same, awaits⟩ := standings.still
  have stays (still : goal.isStill = true) : happenings' = [] ∨
      ∃ epoch outcome, goal.awaited? = some epoch ∧ .crossed epoch outcome ∈ happenings' := by
    rw [awaits]
    exact Standing.Leads.of_still ⟨_, path⟩ (same.symm.trans still)
  refine ⟨.inl within_nil, fun still => ?_, fun _ => .inl within_nil, fun still _ => ?_⟩
  · refine (stays still).imp_left ?_
    rintro rfl
    exact covers_nil
  · rcases stays still with rfl | ⟨epoch, outcome, crosses⟩
    · exact .inl .nil
    · exact .inr ⟨epoch, outcome, .inl crosses⟩

theorem of_second_done (standings : variation.Standings asked? goal asked'? goal')
    {count : Nat} {last : Standing Memory} (path : Standing.Path count goal happenings last) :
    variation.Paces happenings last [] goal' := by
  obtain ⟨same, awaits⟩ := standings.still
  have stays (still : goal'.isStill = true) : happenings = [] ∨
      ∃ epoch outcome, goal'.awaited? = some epoch ∧ .crossed epoch outcome ∈ happenings := by
    rw [← awaits]
    exact Standing.Leads.of_still ⟨_, path⟩ (same.trans still)
  refine ⟨.inr covers_nil, fun _ => .inl covers_nil, fun still => ?_, fun _ still => ?_⟩
  · refine (stays still).imp_left ?_
    rintro rfl
    exact within_nil
  · rcases stays still with rfl | ⟨epoch, outcome, crosses⟩
    · exact .inl .nil
    · exact .inr ⟨epoch, outcome, .inr crosses⟩

theorem of_late (quiet : deeds happenings = []) (moving : goal.isStill = false) :
    variation.Paces happenings goal happenings' goal' := by
  have within : Within variation.Matches (deeds happenings) (deeds happenings') := by
    rw [quiet]
    exact within_nil
  refine ⟨.inl within, fun still => ?_, fun _ => .inl within, fun still _ => ?_⟩
  all_goals cases still.symm.trans moving

end Paces

namespace Setting

variable {whole whole' front front' happenings happenings' rest rest' : List (Happening Memory)}
  {standing standing' next next' : Standing Memory} {asked? asked'? : Option (Call Memory)}

theorem tuned (setting : variation.Setting whole whole')
    (listed : whole = front ++ (happenings ++ rest))
    (listed' : whole' = front' ++ (happenings' ++ rest'))
    (alike : variation.Matches (deeds front) (deeds front'))
    (awaits : ∀ epoch, standing.awaited? = some epoch → ∀ outcome outcome',
      .crossed epoch outcome ∈ whole → .crossed epoch outcome' ∈ whole' →
        variation.Outcomes outcome outcome')
    (step : Standing.Step standing happenings next)
    (step' : Standing.Step standing' happenings' next') :
    variation.Tuned (unanswered none front) (unanswered none front') happenings happenings' := by
  constructor
  · intro token found found' member member'
    obtain ⟨more, rfl⟩ := step.of_looked member
    obtain ⟨more', rfl⟩ := step'.of_looked member'
    exact setting.concord.looked _ _ _ _ _ _ _ listed listed' alike
  · intro kept kept' plan plan' member member'
    obtain ⟨token, rfl⟩ := step.of_recalled member
    obtain ⟨token', rfl⟩ := step'.of_recalled member'
    refine setting.concord.recalled (front ++ [.looked token false]) rest
      (front' ++ [.looked token' false]) rest' kept kept' _ _ ?_ ?_ ?_
    · simpa using listed
    · simpa using listed'
    · simpa [deeds, Happening.isDeed] using alike
  · intro call call' next? happening happening' more more' asked asked' calls same same'
    subst same same'
    obtain ⟨before, token, rfl⟩ := eq_append_of_unanswered asked
    obtain ⟨before', token', rfl⟩ := eq_append_of_unanswered asked'
    rw [List.append_assoc] at listed listed'
    exact setting.replied _ _ _ _ _ _ _ _ _ _ _ listed listed' alike calls
  · intro epoch epoch' reached reached'
    obtain ⟨token, registration, saved, rfl⟩ := step.of_epoch? reached
    obtain ⟨token', registration', saved', rfl⟩ := step'.of_epoch? reached'
    have numbers : front.filterMap Happening.epoch? = front'.filterMap Happening.epoch? := by
      rw [← filterMap_epoch?_deeds, ← filterMap_epoch?_deeds front']
      exact alike.filterMap_epoch?_eq
    have numbered : Numbered 0 ((front ++ [.looked token false]) ++
        .reached epoch registration token saved :: rest) := by
      simpa [listed] using setting.numbered
    have numbered' : Numbered 0 ((front' ++ [.looked token' false]) ++
        .reached epoch' registration' token' saved' :: rest') := by
      simpa [listed'] using setting.numbered'
    rw [numbered.epoch_eq rfl, numbered'.epoch_eq rfl, List.filterMap_append,
      List.filterMap_append, numbers]
    rfl
  · intro epoch outcome outcome' member member'
    refine awaits epoch (step.awaited?_of_crossed member) _ _ ?_ ?_
    · simp [listed, member]
    · simp [listed', member']
  · intro call answer happening more asked' ready same
    subst same
    obtain ⟨before', token', rfl⟩ := eq_append_of_unanswered asked'
    rw [List.append_assoc] at listed'
    exact setting.answered _ _ _ _ _ _ listed' ready
  · intro first next value plan more asked' same
    subst same
    obtain ⟨before', token', rfl⟩ := eq_append_of_unanswered asked'
    rw [List.append_assoc] at listed'
    exact setting.bound _ _ _ _ _ _ _ listed'
  · intro law token member
    refine setting.live law token ?_
    simp [listed', member]

theorem awaits (setting : variation.Setting whole whole') (within : happenings ⊆ whole)
    (within' : happenings' ⊆ whole')
    (alike : variation.Matches (deeds happenings) (deeds happenings'))
    (step : Standing.Step standing happenings next) :
    ∀ epoch, next.awaited? = some epoch → ∀ outcome outcome',
      .crossed epoch outcome ∈ whole → .crossed epoch outcome' ∈ whole' →
        variation.Outcomes outcome outcome' := by
  intro epoch awaited outcome outcome' crossed crossed'
  obtain ⟨happening, member, numbered⟩ := step.epoch?_of_awaited? awaited
  obtain ⟨other, member', same⟩ := alike.exists_right member
  exact setting.settles _ _ _ _ _ (within (mem_deeds.1 member).1) (within' (mem_deeds.1 member').1)
    numbered same crossed crossed'

/-- Runs that stand at places that correspond, having done alike, do alike from there on. -/
theorem paces (setting : variation.Setting whole whole') {count count' : Nat}
    {goal goal' : Standing Memory}
    (standings : variation.Standings (unanswered none front) standing (unanswered none front')
      standing')
    (path : Standing.Path count standing rest goal)
    (path' : Standing.Path count' standing' rest' goal')
    (listed : whole = front ++ rest) (listed' : whole' = front' ++ rest')
    (alike : variation.Matches (deeds front) (deeds front'))
    (awaits : ∀ epoch, standing.awaited? = some epoch → ∀ outcome outcome',
      .crossed epoch outcome ∈ whole → .crossed epoch outcome' ∈ whole' →
        variation.Outcomes outcome outcome') :
    variation.Paces rest goal rest' goal' := by
  induction left : count + count' using Nat.strongRecOn
    generalizing count count' standing standing' front front' rest rest' with
  | ind left inductionHypothesis =>
      cases path with
      | done => exact .of_first_done standings path'
      | @step count _ next _ first rest step path =>
          cases path' with
          | done => exact .of_second_done standings (.step step path)
          | @step count' _ next' _ first' rest' step' path' =>
              have tuned := setting.tuned listed listed' alike awaits step step'
              have within : first ⊆ whole := by
                simp [listed, List.subset_def]
                grind
              have within' : first' ⊆ whole' := by
                simp [listed', List.subset_def]
                grind
              cases standings.advance step step' tuned with
              | both same standings =>
                  rw [← unanswered_append, ← unanswered_append] at standings
                  refine .append same (inductionHypothesis _ (by omega) standings path path' ?_ ?_
                    ?_ (setting.awaits within within' same step) rfl)
                  · rw [listed, List.append_assoc]
                  · rw [listed', List.append_assoc]
                  · rw [deeds_append, deeds_append]
                    exact alike.append same
              | first quiet standings =>
                  have same : variation.Matches (deeds first) (deeds []) := by
                    rw [quiet]
                    exact .nil
                  rw [← unanswered_append] at standings
                  show variation.Paces (first ++ _) goal ([] ++ (first' ++ rest')) goal'
                  refine .append same (inductionHypothesis _ (by omega) standings path
                    (.step step' path') ?_ listed' ?_
                    (setting.awaits within (List.nil_subset _) same step) rfl)
                  · rw [listed, List.append_assoc]
                  · rwa [deeds_append, quiet, List.append_nil]
              | second neutral standings =>
                  rw [← unanswered_append] at standings
                  show variation.Paces ([] ++ (first ++ _)) goal (first' ++ rest') goal'
                  refine .append neutral (inductionHypothesis _ (by omega) standings
                    (.step step path) path' listed ?_ ?_ awaits rfl)
                  · rw [listed', List.append_assoc]
                  · rw [deeds_append, ← List.append_nil (deeds front)]
                    exact alike.append neutral
              | late quiet moving later =>
                  cases path with
                  | done => exact .of_late (by rw [List.append_nil, quiet]) moving
                  | @step count _ _ _ more rest again path =>
                      obtain ⟨same, standings⟩ := later _ _ again
                      rw [← unanswered_append, ← unanswered_append] at standings
                      have both : variation.Matches (deeds (first ++ more)) (deeds first') := by
                        rwa [deeds_append, quiet]
                      have beyond : more ⊆ whole := by
                        simp [listed, List.subset_def]
                        grind
                      rw [← List.append_assoc]
                      refine .append both (inductionHypothesis _ (by omega) standings path path'
                        ?_ ?_ ?_ (setting.awaits beyond within' same again) rfl)
                      · simp [listed]
                      · rw [listed', List.append_assoc]
                      · rw [deeds_append front, deeds_append front']
                        exact alike.append both

end Setting

end Variation

end Trampoline
