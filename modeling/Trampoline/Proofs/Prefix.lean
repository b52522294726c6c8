import Trampoline.Proofs.Course
import Trampoline.Proofs.Onward

/-!
What a run has done fixes where it stands.

Two steps from the same place whose labels agree as far as both go are the same step.  So a course
that goes on leads on from where it led before, but for steps in which nothing happens.
-/

namespace Trampoline

/-- Of two lists that are joined one has the first item after a prefix. -/
theorem append_eq_append_cons {Element : Type} {front back before rest : List Element}
    {item : Element} (split : front ++ back = before ++ item :: rest) :
    (∃ between, front = before ++ item :: between ∧ rest = between ++ back) ∨
      ∃ between, before = front ++ between ∧ back = between ++ item :: rest := by
  rcases List.append_eq_append_iff.1 split with ⟨between, whole, later⟩ | ⟨between, whole, later⟩
  · exact .inr ⟨between, whole, later⟩
  · cases between with
    | nil => exact .inr ⟨[], by simpa using whole.symm, later.symm⟩
    | cons first between =>
        cases later
        exact .inl ⟨between, whole, rfl⟩

namespace Standing

variable {Memory : Type} {standing next other goal : Standing Memory} {count more : Nat}
  {happenings happenings' rest rest' : List (Happening Memory)}

theorem Iterated.unique {plan : Plan Memory} {pending : List (Frame Memory)} {token : Token}
    (iterated : Iterated plan pending token happenings next)
    (iterated' : Iterated plan pending token happenings' other)
    (agree : happenings ++ rest = happenings' ++ rest') :
    happenings = happenings' ∧ next = other := by
  cases iterated with
  | stopped =>
      cases iterated' with
      | stopped => exact ⟨rfl, rfl⟩
      | forward goes =>
          obtain ⟨more, rfl⟩ := forward?_looks goes
          cases agree
      | _ => cases agree
  | forward goes =>
      cases iterated' with
      | stopped =>
          obtain ⟨more, rfl⟩ := forward?_looks goes
          cases agree
      | forward goes' => exact Prod.mk.inj (Option.some.inj (goes.symm.trans goes'))
      | reached same | recalled same =>
          subst same
          cases goes
  | reached boundary =>
      cases iterated' with
      | stopped => cases agree
      | forward goes =>
          subst boundary
          cases goes
      | reached =>
          cases agree
          exact ⟨rfl, rfl⟩
      | recalled held => cases boundary.symm.trans held
  | recalled held =>
      cases iterated' with
      | stopped => cases agree
      | forward goes =>
          subst held
          cases goes
      | reached boundary => cases boundary.symm.trans held
      | recalled =>
          cases agree
          exact ⟨rfl, rfl⟩

theorem Replied.unique {site : Site Memory} {pending : List (Frame Memory)} {token : Token}
    (replied : Replied site pending token happenings next)
    (replied' : Replied site pending token happenings' other)
    (agree : happenings ++ rest = happenings' ++ rest') :
    happenings = happenings' ∧ next = other := by
  cases replied with
  | answered goes =>
      cases replied' with
      | answered goes' =>
          cases agree
          exact ⟨rfl, Option.some.inj (goes.symm.trans goes')⟩
      | panicked => cases agree
  | panicked =>
      cases replied' with
      | answered => cases agree
      | panicked =>
          injection agree with same
          cases same
          exact ⟨rfl, rfl⟩

/-- Steps from one place agree if what happens in them agrees as far as both go. -/
theorem Step.unique (step : Step standing happenings next) (step' : Step standing happenings' other)
    (agree : happenings ++ rest = happenings' ++ rest') :
    happenings = happenings' ∧ next = other := by
  cases standing with
  | iterating => exact (step_iterating_iff.1 step).unique (step_iterating_iff.1 step') agree
  | feeding =>
      exact Prod.mk.inj ((step_feeding_iff.1 step).symm.trans (step_feeding_iff.1 step'))
  | calling => exact (step_calling_iff.1 step).unique (step_calling_iff.1 step') agree
  | suspended =>
      cases step
      cases step'
      cases agree
      exact ⟨rfl, rfl⟩
  | ending =>
      cases step
      cases step'
      exact ⟨rfl, rfl⟩
  | ended => cases step

theorem Path.split (first : Path more standing happenings next)
    (path : Path count standing (happenings ++ rest) goal) :
    Leads next rest goal ∨ rest = [] ∧ Leads goal [] next := by
  induction first generalizing count with
  | done => exact .inl ⟨_, path⟩
  | @step more standing between next early late taken first inductionHypothesis =>
      generalize whole : early ++ late ++ rest = all at path
      cases path with
      | done =>
          obtain ⟨rfl, rfl, rfl⟩ : early = [] ∧ late = [] ∧ rest = [] := by simpa using whole
          exact .inr ⟨rfl, (Leads.one taken).trans ⟨_, first⟩⟩
      | step taken' path =>
          rw [List.append_assoc] at whole
          obtain ⟨rfl, rfl⟩ := taken.unique taken' whole
          rw [← List.append_cancel_left whole] at path
          exact inductionHypothesis path

/-- A longer course leads on from where a shorter one led, or shows no step more. -/
theorem Leads.split (first : Leads standing happenings next)
    (leads : Leads standing (happenings ++ rest) goal) :
    Leads next rest goal ∨ rest = [] ∧ Leads goal [] next := by
  obtain ⟨_, first⟩ := first
  obtain ⟨_, path⟩ := leads
  exact first.split path

/-- Whether a run may go on without anything happening. -/
def isSilent : Standing Memory → Bool
  | .feeding _ _ _ | .ending _ => true
  | _ => false

theorem Leads.eq_of_silent (leads : Leads standing [] goal) (loud : goal.isSilent = false) :
    standing = goal := by
  obtain ⟨count, path⟩ := leads
  generalize nothing : ([] : List (Happening Memory)) = happenings at path
  induction path with
  | done => rfl
  | step taken _ inductionHypothesis =>
      obtain ⟨rfl, rfl⟩ := List.append_eq_nil_iff.1 nothing.symm
      obtain rfl := inductionHypothesis loud rfl
      cases taken <;> cases loud

/-! ### The step in which something happens -/

section Within

variable {before : List (Happening Memory)} {happening : Happening Memory}

theorem Leads.exists_step (leads : Leads standing (before ++ happening :: rest) goal) :
    ∃ early front between late place next, before = early ++ front ∧ rest = between ++ late ∧
      Leads standing early place ∧ Step place (front ++ happening :: between) next ∧
        Leads next late goal := by
  obtain ⟨_, path⟩ := leads
  generalize split : before ++ happening :: rest = happenings at path
  induction path generalizing before with
  | done => simp at split
  | @step _ standing next goal happenings later taken path inductionHypothesis =>
      rcases append_eq_append_cons split.symm with ⟨between, rfl, rfl⟩ | ⟨front, rfl, whole⟩
      · exact ⟨[], before, between, later, standing, next, rfl, rfl, .refl, taken, _, path⟩
      · obtain ⟨early, inner, between, late, place, next, rfl, rfl, first, step, leads⟩ :=
          inductionHypothesis whole.symm
        exact ⟨_, inner, between, late, place, next, (List.append_assoc ..).symm, rfl,
          (Leads.one taken).trans first, step, leads⟩

theorem Leads.beyond {ends : Standing Memory → Prop}
    (leads : Leads standing (before ++ happening :: rest) goal)
    (alone : ∀ place label next, Step place label next → happening ∈ label →
      label = [happening] ∧ ends next) :
    ∃ next, ends next ∧ Leads next rest goal := by
  obtain ⟨_, front, between, late, place, next, _, rfl, _, step, later⟩ := leads.exists_step
  obtain ⟨same, holds⟩ := alone _ _ _ step (by simp)
  obtain rfl : between = [] := by
    cases front <;> simp at same
    exact same
  exact ⟨next, holds, later⟩

end Within

end Standing

end Trampoline
