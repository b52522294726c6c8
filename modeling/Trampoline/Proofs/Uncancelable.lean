import Trampoline.Proofs.Cancellation
import Trampoline.Proofs.Shielding

/-!
What happens under the uncancelable token.

An uncancelable plan in a run that is uncancelable already masks the token again, which changes
nothing.  So a run that comes under the uncancelable token stays there as long as other code is
asked for no token, and so do the runs that are nested in it; none of them finds its token canceled.
-/

namespace Trampoline

variable {Memory : Type}

def Happening.token? : Happening Memory → Option Token
  | .looked token _ | .called _ token | .reached _ _ token _ => some token
  | _ => none

/-- Code is asked for a token only where a plan is made uncancelable. -/
def OnlyMasks (happenings : List (Happening Memory)) : Prop :=
  ∀ call ∈ calls happenings, call.form = .token → ∃ token, call = .switching mask token

theorem OnlyMasks.mono {happenings rest : List (Happening Memory)} (masks : OnlyMasks happenings)
    (subset : rest ⊆ happenings) : OnlyMasks rest := by
  intro call member
  obtain ⟨token, called⟩ := mem_calls_iff.1 member
  exact masks call (mem_calls_iff.2 ⟨token, subset called⟩)

def Unconcerned (happenings : List (Happening Memory)) : Prop :=
  ∀ happening ∈ happenings, ∀ token, happening.token? = some token → token = .uncancelable

theorem Unconcerned.append {happenings rest : List (Happening Memory)}
    (unconcerned : Unconcerned happenings) (later : Unconcerned rest) :
    Unconcerned (happenings ++ rest) := by
  intro happening member
  rcases List.mem_append.1 member with here | there
  · exact unconcerned happening here
  · exact later happening there

namespace SameButFrames

variable {happenings others : List (Happening Memory)}

theorem calls_eq (same : SameButFrames happenings others) : calls happenings = calls others := by
  have bare (list : List (Happening Memory)) : calls (list.map Happening.bare) = calls list := by
    rw [calls, List.filterMap_map]
    exact List.filterMap_congr fun happening _ => by cases happening <;> rfl
  rw [← bare, same, bare]

theorem onlyMasks (same : SameButFrames happenings others) (masks : OnlyMasks happenings) :
    OnlyMasks others := by
  rw [OnlyMasks, ← same.calls_eq]
  exact masks

theorem unconcerned (same : SameButFrames happenings others) (unconcerned : Unconcerned happenings) :
    Unconcerned others := by
  intro happening member token active
  obtain ⟨other, listed, bare⟩ := same.symm.mem_bare member
  refine unconcerned other listed token ?_
  cases other <;> cases happening <;> cases bare <;> exact active

theorem answered (same : SameButFrames happenings others) (answered : Answered happenings) :
    Answered others := by
  rintro before call token answer happening after rfl ready
  rw [SameButFrames, List.map_append, List.map_eq_append_iff] at same
  obtain ⟨before', _, rfl, _, same⟩ := same
  obtain ⟨called, _, rfl, bareCalled, same⟩ := List.map_eq_cons_iff.1 same
  obtain ⟨next, after', rfl, bare, _⟩ := List.map_eq_cons_iff.1 same
  obtain rfl : called = .called call token := by
    cases called <;> cases bareCalled
    rfl
  obtain rfl := answered before' call token answer next after' rfl ready
  cases happening <;> cases bare
  rfl

end SameButFrames

namespace Standing

variable {standing next goal : Standing Memory} {before happenings : List (Happening Memory)}
  {count : Nat}

/-- A run that is uncancelable or has ended, and that waits for no token but that of a mask. -/
structure Uncancelable (before : List (Happening Memory)) (standing : Standing Memory) : Prop where
  active : ∀ token, standing.token? = some token → token = .uncancelable
  keeps : standing.keepsToken = true ∨ ∃ source restore pending token early current,
    standing = .calling (.switching source restore) pending token ∧
      before = early ++ [.called (.switching mask current) token]

theorem Step.token?_eq (step : Step standing happenings next) :
    ∀ happening ∈ happenings, ∀ token, happening.token? = some token →
      standing.token? = some token := by
  cases step <;> simp [Happening.token?, token?]

theorem Step.uncancelable (step : Step standing happenings next)
    (uncancelable : Uncancelable before standing) (answered : Answered (before ++ happenings))
    (masks : OnlyMasks happenings) : Uncancelable (before ++ happenings) next := by
  have same (token : Token) : standing.token? = some token → token = .uncancelable :=
    uncancelable.active token
  -- The code of a mask has been asked for the token, and has answered with the active one.
  have masked {source : Plan Memory} {restore pending token other}
      (calling : standing = .calling (.switching source restore) pending token)
      (answers : happenings = [.answered (.token other)]) : other = token := by
    subst calling answers
    obtain keeps | ⟨_, _, _, _, early, current, site, rfl⟩ := uncancelable.keeps
    · cases keeps
    · cases site
      have listed := answered early (.switching mask current) token (.token .uncancelable)
        (.answered (.token other)) [] (by simp) rfl
      cases listed
      exact (same _ rfl).symm
  cases step with
  | stop | conclude | tell => exact ⟨nofun, .inl rfl⟩
  | @cross pending token epoch outcome =>
      cases outcome with
      | canceled => exact ⟨nofun, .inl rfl⟩
      | completed value => exact ⟨same, .inl rfl⟩
      | failed failure => exact ⟨same, .inl rfl⟩
  | @switch source modify restore pending token =>
      obtain ⟨current, asked⟩ := masks (.switching modify token)
        (mem_calls_iff.2 ⟨token, .tail _ (.head _)⟩) rfl
      rw [asked]
      exact ⟨same, .inr ⟨_, _, _, _, before ++ [.looked token false], current, rfl, by simp⟩⟩
  | @meet frame result pending token call taken =>
      refine ⟨same, .inl ?_⟩
      cases frame with
      | restore old back =>
          cases taken
          obtain ⟨_, asked⟩ := masks _ (mem_calls_iff.2 ⟨token, .head _⟩) rfl
          cases asked
      | _ => rfl
  | otherToken different | scopedToken different => exact absurd (masked rfl rfl) different
  | restoreAnswer =>
      obtain keeps | ⟨_, _, _, _, _, _, site, _⟩ := uncancelable.keeps
      · cases keeps
      · cases site
  | _ => exact ⟨same, .inl rfl⟩

/-- A run that comes under the uncancelable token stays there. -/
theorem Path.uncancelable (path : Path count standing happenings goal)
    (uncancelable : Uncancelable before standing) (answered : Answered (before ++ happenings))
    (masks : OnlyMasks happenings) :
    Unconcerned happenings ∧ ∀ token, goal.token? = some token → token = .uncancelable := by
  induction path generalizing before with
  | done => exact ⟨nofun, uncancelable.active⟩
  | @step count standing next goal happenings rest step path inductionHypothesis =>
      rw [← List.append_assoc] at answered
      have kept := step.uncancelable uncancelable answered.of_append_left (masks.mono (by simp))
      have later := inductionHypothesis kept answered (masks.mono (by simp))
      refine ⟨.append (fun happening member token active => ?_) later.1, later.2⟩
      exact uncancelable.active token (step.token?_eq happening member token active)

end Standing

namespace Chronicle

/-- What happens in a run that asks for no token other than to mask it, and whose boundaries for
nested runs no code completes. -/
structure Confined (chronicle : Chronicle Memory) (run : Nat)
    (happenings : List (Happening Memory)) : Prop where
  masks : OnlyMasks happenings
  forwarded : ∀ epoch registration token pending thread outcome maker,
    .reached epoch registration token pending ∈ happenings → registration.isNested = true →
    Record.mk run thread (.attempted epoch outcome maker) ∈ chronicle.history → maker ≠ .code

namespace Reachable

variable {chronicle : Chronicle Memory} (reachable : chronicle.Reachable) {run : Nat}
  {plan : Plan Memory} {pending : Stack (Frame Memory)} {receiver : Receiver Memory}
include reachable

theorem looks_of_unconcerned {happenings : List (Happening Memory)}
    (unconcerned : Unconcerned happenings) (within : happenings ⊆ course run chronicle.history) :
    Standing.Looks (fun _ => false) happenings := by
  intro token found member
  obtain rfl := unconcerned _ member token rfl
  cases found with
  | false => rfl
  | true =>
      obtain ⟨record, recorded, looked⟩ := mem_of_course (within member)
      exact absurd looked (reachable.honest.looked record recorded)

theorem unconcerned_of_started
    (started : (course run chronicle.history).head? =
      some (.started plan pending .uncancelable receiver))
    (masks : OnlyMasks (course run chronicle.history)) :
    Unconcerned (course run chronicle.history) := by
  have answered := reachable.answered run
  obtain ⟨happenings, standing, listed, ⟨count, path⟩, _⟩ :=
    reachable.holds.tracked.leads_of_started started
  rw [listed] at masks answered ⊢
  have begins : Standing.Uncancelable [.started plan pending .uncancelable receiver]
      (.iterating plan pending.toList .uncancelable) :=
    ⟨fun token active => (Option.some.inj active).symm, .inl rfl⟩
  have later := path.uncancelable begins answered (masks.mono (List.subset_cons_self _ _))
  intro happening member token active
  rcases List.mem_cons.1 member with rfl | there
  · cases active
  · exact later.1 happening there token active

/-- Runs that are nested in an uncancelable run are uncancelable, and orderly. -/
theorem orderly_of_nests {inner : Nat} (nests : chronicle.Nests run inner)
    (started : (course run chronicle.history).head? =
      some (.started plan pending .uncancelable receiver))
    (confined : ∀ inner, chronicle.Nests run inner →
      chronicle.Confined inner (course inner chronicle.history)) :
    chronicle.Orderly (fun _ => false) (fun _ => none) inner := by
  induction nests generalizing plan pending receiver with
  | @self run =>
      have unconcerned := reachable.unconcerned_of_started started (confined run .self).masks
      refine ⟨reachable.looks_of_unconcerned unconcerned (List.Subset.refl _), ?_,
        (confined run .self).forwarded⟩
      intro epoch register token pending outcome result _ _ known
      cases known
  | @inner run nested other epoch forwards _ inductionHypothesis =>
      have unconcerned := reachable.unconcerned_of_started started (confined run .self).masks
      obtain ⟨registration, saved, source, frames, token, reached, _, _, begun⟩ :=
        reachable.started_of_forward forwards
      obtain rfl := unconcerned _ reached token rfl
      exact inductionHypothesis begun fun inner nests => confined inner (.inner forwards nests)

end Reachable

end Chronicle

end Trampoline
