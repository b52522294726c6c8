import Trampoline.Proofs.Iteration
import Trampoline.Proofs.Numbering
import Trampoline.Proofs.Variation

/-!
What a run does, and that two runs do alike.

The deeds of a run are the calls that it makes, the plans that it looks up, the boundaries that it
reaches and the outcome that it tells; all else is given to it.  How often it looks at its token is
not counted.  The second of two runs may call neutral functions besides, where laws allow that.
-/

namespace Trampoline

variable {Memory : Type}

namespace Happening

def isDeed : Happening Memory → Bool
  | .called _ _ | .recalled _ _ | .reached _ _ _ _ | .told _ => true
  | _ => false

end Happening

def deeds (happenings : List (Happening Memory)) : List (Happening Memory) :=
  happenings.filter Happening.isDeed

@[simp]
theorem deeds_append (happenings rest : List (Happening Memory)) :
    deeds (happenings ++ rest) = deeds happenings ++ deeds rest :=
  List.filter_append ..

theorem mem_deeds {happening : Happening Memory} {happenings : List (Happening Memory)} :
    happening ∈ deeds happenings ↔ happening ∈ happenings ∧ happening.isDeed = true :=
  List.mem_filter

theorem filterMap_epoch?_deeds (happenings : List (Happening Memory)) :
    (deeds happenings).filterMap Happening.epoch? = happenings.filterMap Happening.epoch? := by
  rw [deeds, List.filterMap_filter]
  refine List.filterMap_congr fun happening _ => ?_
  cases happening <;> rfl

/-- The call that is not replied to, after more has happened. -/
def unanswered (asked? : Option (Call Memory)) (happenings : List (Happening Memory)) :
    Option (Call Memory) :=
  match happenings.getLast? with
  | none => asked?
  | some happening => happening.call?

theorem unanswered_append (asked? : Option (Call Memory)) (happenings rest : List (Happening Memory)) :
    unanswered asked? (happenings ++ rest) = unanswered (unanswered asked? happenings) rest := by
  simp only [unanswered, List.getLast?_append]
  cases rest.getLast? <;> rfl

theorem eq_append_of_unanswered {happenings : List (Happening Memory)} {call : Call Memory}
    (asked : unanswered none happenings = some call) :
    ∃ before token, happenings = before ++ [.called call token] := by
  unfold unanswered at asked
  split at asked
  · cases asked
  · rename_i happening last
    obtain ⟨before, rfl⟩ := List.getLast?_eq_some_iff.1 last
    cases happening <;> cases asked
    exact ⟨before, _, rfl⟩

/-- A property of what happens from each moment on and what has happened before. -/
def Throughout (holds : List (Happening Memory) → List (Happening Memory) → Prop) :
    List (Happening Memory) → List (Happening Memory) → Prop
  | before, [] => holds before []
  | before, happening :: rest =>
      holds before (happening :: rest) ∧ Throughout holds (before ++ [happening]) rest

theorem Throughout.of_append {holds : List (Happening Memory) → List (Happening Memory) → Prop}
    {before front rest : List (Happening Memory)}
    (throughout : Throughout holds before (front ++ rest)) : holds (before ++ front) rest := by
  induction front generalizing before with
  | nil =>
      rw [List.append_nil]
      cases rest with
      | nil => exact throughout
      | cons => exact throughout.1
  | cons happening front inductionHypothesis =>
      have later := inductionHypothesis throughout.2
      rwa [List.append_assoc] at later

namespace Variation

variable (variation : Variation Memory)

inductive Deeds : Happening Memory → Happening Memory → Prop where
  | called {call other token next?} (calls : variation.Calls call other next?) :
      Deeds (.called call token) (.called other token)
  | recalled {kept kept' plan other} (plans : variation.Plans plan other) :
      Deeds (.recalled kept plan) (.recalled kept' other)
  | reached {epoch registration other token pending pending'}
      (registrations : variation.Registrations registration other)
      (pendings : variation.Stacks pending.toList pending'.toList) :
      Deeds (.reached epoch registration token pending) (.reached epoch other token pending')
  | told {outcome other} (outcomes : variation.Outcomes outcome other) :
      Deeds (.told outcome) (.told other)

/-- Deeds one by one, and calls of neutral functions besides. -/
inductive Matches : List (Happening Memory) → List (Happening Memory) → Prop where
  | nil : Matches [] []
  | cons {deed other rest others} (deeds : variation.Deeds deed other)
      (later : Matches rest others) : Matches (deed :: rest) (other :: others)
  | besides {call token deeds others} (law : variation.laws .starting ∨ variation.laws .wrapping)
      (neutral : call.IsNeutral) (later : Matches deeds others) :
      Matches deeds (.called call token :: others)

variable {variation}

namespace Matches

variable {done done' rest rest' : List (Happening Memory)}

theorem append (first : variation.Matches done done') (later : variation.Matches rest rest') :
    variation.Matches (done ++ rest) (done' ++ rest') := by
  induction first with
  | nil => exact later
  | cons deeds _ inductionHypothesis => exact .cons deeds inductionHypothesis
  | besides law neutral _ inductionHypothesis => exact .besides law neutral inductionHypothesis

theorem one {deed other : Happening Memory} (deeds : variation.Deeds deed other) :
    variation.Matches [deed] [other] :=
  .cons deeds .nil

theorem filterMap_epoch?_eq (same : variation.Matches done done') :
    done.filterMap Happening.epoch? = done'.filterMap Happening.epoch? := by
  induction same with
  | nil => rfl
  | cons deeds _ inductionHypothesis =>
      rw [List.filterMap_cons, List.filterMap_cons, inductionHypothesis]
      cases deeds <;> rfl
  | besides _ _ _ inductionHypothesis => exact inductionHypothesis

theorem exists_right (same : variation.Matches done done') {deed : Happening Memory}
    (member : deed ∈ done) : ∃ other ∈ done', variation.Deeds deed other := by
  induction same with
  | nil => cases member
  | cons deeds _ inductionHypothesis =>
      rcases List.mem_cons.1 member with rfl | later
      · exact ⟨_, .head _, deeds⟩
      · obtain ⟨other, found, alike⟩ := inductionHypothesis later
        exact ⟨other, .tail _ found, alike⟩
  | besides _ _ _ inductionHypothesis =>
      obtain ⟨other, found, alike⟩ := inductionHypothesis member
      exact ⟨other, .tail _ found, alike⟩

/-- What the second run does the first one does too, unless it calls a neutral function. -/
theorem exists_left (same : variation.Matches done done') {other : Happening Memory}
    (member : other ∈ done') (noCall : other.call? = none) :
    ∃ deed ∈ done, variation.Deeds deed other := by
  induction same with
  | nil => cases member
  | cons deeds _ inductionHypothesis =>
      rcases List.mem_cons.1 member with rfl | later
      · exact ⟨_, .head _, deeds⟩
      · obtain ⟨deed, found, alike⟩ := inductionHypothesis later
        exact ⟨deed, .tail _ found, alike⟩
  | besides _ _ _ inductionHypothesis =>
      rcases List.mem_cons.1 member with rfl | later
      · cases noCall
      · exact inductionHypothesis later

theorem forall₂ (same : variation.Matches done done') (starting : ¬ variation.laws .starting)
    (wrapping : ¬ variation.laws .wrapping) : List.Forall₂ variation.Deeds done done' := by
  induction same with
  | nil => exact .nil
  | cons deeds _ inductionHypothesis => exact .cons deeds inductionHypothesis
  | besides law => exact absurd law (not_or.2 ⟨starting, wrapping⟩)

end Matches

end Variation

/-! ### Agreement -/

section Agree

variable (alike : List (Happening Memory) → List (Happening Memory) → Prop)

def Within (happenings others : List (Happening Memory)) : Prop :=
  ∃ front, front <+: others ∧ alike happenings front

def Covers (happenings others : List (Happening Memory)) : Prop :=
  ∃ front, front <+: happenings ∧ alike front others

/-- Two runs do alike as far as both go, where one has told an outcome the other one does no more,
and where both have they have done the same. -/
structure Concur (happenings others : List (Happening Memory)) : Prop where
  together : Within alike happenings others ∨ Covers alike happenings others
  first : ∀ outcome, .told outcome ∈ happenings → Covers alike happenings others
  second : ∀ outcome, .told outcome ∈ others → Within alike happenings others
  both : ∀ outcome outcome', .told outcome ∈ happenings → .told outcome' ∈ others →
    alike happenings others

variable {alike} {other : List (Happening Memory) → List (Happening Memory) → Prop}
  {happenings others : List (Happening Memory)}

theorem Concur.mono (concur : Concur alike happenings others)
    (weaker : ∀ done done', alike done done' → other done done') :
    Concur other happenings others := by
  have within : Within alike happenings others → Within other happenings others :=
    fun ⟨front, isFront, same⟩ => ⟨front, isFront, weaker _ _ same⟩
  have covers : Covers alike happenings others → Covers other happenings others :=
    fun ⟨front, isFront, same⟩ => ⟨front, isFront, weaker _ _ same⟩
  exact ⟨concur.together.imp within covers, fun outcome told => covers (concur.first outcome told),
    fun outcome told => within (concur.second outcome told),
    fun outcome outcome' told told' => weaker _ _ (concur.both outcome outcome' told told')⟩

end Agree

end Trampoline
