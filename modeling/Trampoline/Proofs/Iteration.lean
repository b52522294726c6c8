import Trampoline.Proofs.Prefix

/-!
What an iteration still does, and under which token the next one starts.

An iteration starts where a run looks at its token.  From anywhere within one, little code is left
to call: the code that names a panic, and after a delay the code of the one frame that takes the
result.  A run that finds its token canceled stops.  Only code that is asked for a token changes
the active one.
-/

namespace Trampoline

variable {Memory : Type}

namespace Happening

def call? : Happening Memory → Option (Call Memory)
  | .called call _ => some call
  | _ => none

/-- Whether it is the look at a token, or a boundary reached right after that. -/
def isStart : Happening Memory → Bool
  | .looked _ _ | .reached _ _ _ _ => true
  | _ => false

end Happening

def calls (happenings : List (Happening Memory)) : List (Call Memory) :=
  happenings.filterMap Happening.call?

theorem mem_calls_iff {happenings : List (Happening Memory)} {call : Call Memory} :
    call ∈ calls happenings ↔ ∃ token, .called call token ∈ happenings := by
  rw [calls, List.mem_filterMap]
  constructor
  · rintro ⟨happening, member, same⟩
    cases happening <;> cases same
    exact ⟨_, member⟩
  · rintro ⟨token, member⟩
    exact ⟨_, member, rfl⟩

namespace Standing

def token? : Standing Memory → Option Token
  | .iterating _ _ token | .feeding _ _ token | .calling _ _ token | .suspended _ _ token =>
      some token
  | .ending _ | .ended _ => none

/-- Whether no code has been asked for a token and is still to answer. -/
def keepsToken : Standing Memory → Bool
  | .calling (.switching _ _) _ _ | .calling (.restoring _) _ _ => false
  | _ => true

/-- The code that an iteration may still call from where a run stands. -/
inductive StillCalls : Standing Memory → List (Call Memory) → Prop where
  | nothing {standing} : StillCalls standing []
  /-- The frame that takes a result. -/
  | frame {result pending token call}
      (taken : pending.findSome? (Frame.call? · result token) = some call) :
      StillCalls (.feeding result pending token) [call]
  | naming {onPanic pending token panic} :
      StillCalls (.calling (.suspended onPanic) pending token) [.naming onPanic panic]
  | delayed {onPanic pending token value rest}
      (feeds : StillCalls (.feeding (.ok value) pending token) rest) :
      StillCalls (.calling (.delayed onPanic) pending token) rest
  | named {pending token failure rest}
      (feeds : StillCalls (.feeding (.error failure) pending token) rest) :
      StillCalls (.calling .namingDelayed pending token) rest
  | failed {onPanic pending token panic rest}
      (names : StillCalls (.calling .namingDelayed pending token) rest) :
      StillCalls (.calling (.delayed onPanic) pending token) (.naming onPanic panic :: rest)

variable {standing next goal : Standing Memory} {happenings rest : List (Happening Memory)}
  {token : Token} {count : Nat}

theorem Step.looks (step : Step standing happenings next) :
    (∃ token found later, standing.token? = some token ∧
        happenings = .looked token found :: later) ∨
      ∀ happening ∈ happenings, happening.isStart = false := by
  cases step with
  | skip | meet | conclude | suspendAnswer | delayAnswer | nameSuspendedAnswer | nameDelayedAnswer
  | continueAnswer | mapAnswer | sameToken | otherToken | scopedToken | restoreAnswer | suspendPanic
  | delayPanic | nameDelayedPanic | panic | cross | tell =>
      exact .inr (by simp [Happening.isStart])
  | _ => exact .inl ⟨_, _, _, rfl, rfl⟩

theorem StillCalls.eq_nil {later : List (Call Memory)} (still : StillCalls standing later)
    (none : match standing with
      | .feeding _ _ _ | .calling (.suspended _) _ _ | .calling (.delayed _) _ _
      | .calling .namingDelayed _ _ => False
      | _ => True) : later = [] := by
  cases still with
  | nothing => rfl
  | _ => exact none.elim

theorem stillCalls_after {outcome : Outcome Value} {pending : List (Frame Memory)}
    {later : List (Call Memory)} (still : StillCalls (after outcome pending token) later) :
    later = [] := by
  cases outcome <;> exact still.eq_nil trivial

/-- Within an iteration, what a step calls and what may be called then might be called before. -/
theorem Step.stillCalls (step : Step standing happenings next) {later : List (Call Memory)}
    (quiet : ∀ happening ∈ happenings, happening.isStart = false) (still : StillCalls next later) :
    StillCalls standing (calls happenings ++ later) := by
  cases step with
  | skip refused =>
      cases still with
      | nothing => exact .nothing
      | frame taken => exact .frame (by rwa [List.findSome?_cons, refused])
  | @meet frame result pending token call taken =>
      have none : later = [] := by
        cases frame <;> exact still.eq_nil trivial
      subst none
      exact .frame (by rw [List.findSome?_cons, taken])
  | delayAnswer => exact .delayed still
  | nameDelayedAnswer | nameDelayedPanic => exact .named still
  | suspendPanic =>
      cases still.eq_nil trivial
      exact .naming
  | delayPanic => exact .failed still
  | cross =>
      cases stillCalls_after still
      exact .nothing
  | conclude | suspendAnswer | nameSuspendedAnswer | continueAnswer | mapAnswer | sameToken | otherToken
  | scopedToken | restoreAnswer | panic | tell =>
      cases still.eq_nil trivial
      exact .nothing
  | _ => cases quiet _ (.head _)

/-- Unless it asks code for another token, an iteration leaves the active one. -/
theorem Step.keepsToken (step : Step standing happenings next)
    (keeps : standing.keepsToken = true)
    (asksNone : ∀ call ∈ calls happenings, call.form ≠ .token) :
    next.keepsToken = true ∧ (next.token? = standing.token? ∨ next.token? = none) := by
  cases step with
  | @meet frame result pending token call taken =>
      have asks := asksNone call (mem_calls_iff.2 ⟨_, .head _⟩)
      cases frame with
      | restore =>
          cases taken
          exact absurd rfl asks
      | _ => exact ⟨rfl, .inl rfl⟩
  | switch => exact absurd rfl (asksNone _ (mem_calls_iff.2 ⟨_, .tail _ (.head _)⟩))
  | @cross pending token epoch outcome => cases outcome <;> simp [after, Standing.keepsToken, token?]
  | sameToken | otherToken | scopedToken | restoreAnswer => cases keeps
  | stop | conclude | tell => exact ⟨rfl, .inr rfl⟩
  | panic => exact ⟨rfl, .inl rfl⟩
  | _ => exact ⟨rfl, .inl rfl⟩

/-- How an iteration comes to its end, and with what the next one starts. -/
structure WindsUp (standing : Standing Memory) (wrap rest : List (Happening Memory)) : Prop where
  starts : ∀ happening ∈ wrap, happening.isStart = false
  calls : StillCalls standing (calls wrap)
  next : rest = [] ∨ ∃ token found later, rest = .looked token found :: later
  keeps : standing.keepsToken = true →
    (∀ call ∈ Trampoline.calls wrap, call.form ≠ .token) →
      ∀ token found, rest.head? = some (.looked token found) → standing.token? = some token

theorem Path.windsUp (path : Path count standing happenings goal) :
    ∃ wrap rest, happenings = wrap ++ rest ∧ standing.WindsUp wrap rest := by
  induction path with
  | done => exact ⟨[], [], rfl, by simp, .nothing, .inl rfl, by simp⟩
  | @step count standing next goal happenings rest step path inductionHypothesis =>
      rcases step.looks with ⟨token, found, later, active, rfl⟩ | quiet
      · refine ⟨[], _, rfl, by simp, .nothing, .inr ⟨_, _, _, rfl⟩, ?_⟩
        intro _ _ other verdict same
        cases same
        exact active
      · obtain ⟨wrap, later, rfl, winds⟩ := inductionHypothesis
        refine ⟨happenings ++ wrap, later, (List.append_assoc ..).symm, ?_, ?_, winds.next, ?_⟩
        · intro happening member
          rcases List.mem_append.1 member with here | there
          · exact quiet _ here
          · exact winds.starts happening there
        · rw [Trampoline.calls, List.filterMap_append]
          exact step.stillCalls quiet winds.calls
        · intro keeps asksNone token found first
          rw [Trampoline.calls, List.filterMap_append] at asksNone
          obtain ⟨keeps', same⟩ := step.keepsToken keeps fun call member =>
            asksNone call (List.mem_append_left _ member)
          have active := winds.keeps keeps' (fun call member =>
            asksNone call (List.mem_append_right _ member)) token found first
          rcases same with same | none
          · rw [← same, active]
          · rw [none] at active
            cases active

theorem Step.active (step : Step standing happenings next) :
    (∀ other found, .looked other found ∈ happenings → standing.token? = some other) ∧
      ∀ epoch registration other pending, .reached epoch registration other pending ∈ happenings →
        standing.token? = some other := by
  cases step <;> simp +contextual [token?]

theorem of_token?_eq_none (inactive : standing.token? = none)
    (path : Path count standing happenings goal) :
    ∀ happening ∈ happenings, ∃ outcome, happening = .told outcome := by
  cases path with
  | done => simp
  | step taken path =>
      cases taken with
      | tell =>
          obtain ⟨rfl, rfl⟩ := path.of_ended
          simp
      | _ => cases inactive

/-- As long as no code is asked for a token, a run that goes on has the one that it had. -/
theorem Path.token?_eq (path : Path count standing happenings goal)
    (keeps : standing.keepsToken = true)
    (asksNone : ∀ call ∈ calls happenings, call.form ≠ .token) :
    goal.token? = standing.token? ∨ goal.token? = none := by
  induction path with
  | done => exact .inl rfl
  | @step count standing next goal happenings rest step path inductionHypothesis =>
      rw [calls, List.filterMap_append] at asksNone
      obtain ⟨keeps', same⟩ := step.keepsToken keeps fun call member =>
        asksNone call (List.mem_append_left _ member)
      rcases inductionHypothesis keeps' fun call member =>
        asksNone call (List.mem_append_right _ member) with later | ended
      · rw [later]
        exact same
      · exact .inr ended

theorem Path.keepsToken (path : Path count standing happenings goal)
    (active : standing.token? = some token) (keeps : standing.keepsToken = true)
    (asksNone : ∀ call ∈ calls happenings, call.form ≠ .token) :
    (∀ other found, .looked other found ∈ happenings → other = token) ∧
      ∀ epoch registration other pending, .reached epoch registration other pending ∈ happenings →
        other = token := by
  induction path with
  | done => simp
  | @step count standing next goal happenings rest step path inductionHypothesis =>
      rw [calls, List.filterMap_append] at asksNone
      obtain ⟨keeps', same⟩ := step.keepsToken keeps fun call member =>
        asksNone call (List.mem_append_left _ member)
      have later : (∀ other found, .looked other found ∈ rest → other = token) ∧
          ∀ epoch registration other pending, .reached epoch registration other pending ∈ rest →
            other = token := by
        rcases same with same | inactive
        · exact inductionHypothesis (same.trans active) keeps' fun call member =>
            asksNone call (List.mem_append_right _ member)
        · have told := of_token?_eq_none inactive path
          constructor
          · intro other found member
            obtain ⟨outcome, same⟩ := told _ member
            cases same
          · intro epoch registration other pending member
            obtain ⟨outcome, same⟩ := told _ member
            cases same
      have here := step.active
      rw [active] at here
      constructor
      · intro other found member
        rcases List.mem_append.1 member with now | then_
        · cases here.1 other found now
          rfl
        · exact later.1 other found then_
      · intro epoch registration other pending member
        rcases List.mem_append.1 member with now | then_
        · cases here.2 epoch registration other pending now
          rfl
        · exact later.2 epoch registration other pending then_

theorem Step.of_looked_canceled (step : Step standing happenings next)
    (looked : .looked token true ∈ happenings) :
    happenings = [.looked token true] ∧ next = .ending .canceled := by
  cases step with
  | stop =>
      cases List.mem_singleton.1 looked
      exact ⟨rfl, rfl⟩
  | _ => simp at looked

/-- A run that finds its token canceled only tells that. -/
theorem Path.stops (path : Path count standing happenings goal)
    {before : List (Happening Memory)} (listed : happenings = before ++ .looked token true :: rest) :
    (rest = [] ∧ goal = .ending .canceled) ∨
      (rest = [.told .canceled] ∧ goal = .ended .canceled) := by
  subst listed
  have leads : Leads standing (before ++ .looked token true :: rest) goal := ⟨count, path⟩
  obtain ⟨_, rfl, _, path⟩ := leads.beyond fun _ _ _ step => step.of_looked_canceled
  cases path with
  | done => exact .inl ⟨rfl, rfl⟩
  | step told ended =>
      cases told
      obtain ⟨rfl, rfl⟩ := ended.of_ended
      exact .inr ⟨rfl, rfl⟩

end Standing

end Trampoline
