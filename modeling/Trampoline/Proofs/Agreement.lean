import Mathlib.Data.List.Forall2
import Trampoline.Proofs.Numbering

/-!
Runs that are given alike do alike.

What a look at the token finds and what code answers is given to a run; what it calls and reaches
and tells comes from the run.  As long as two runs of programs that are alike are given alike, and
the boundaries that they reach complete alike, the one does all that the other does, or is behind:
then it stands where the other stood once.
-/

namespace Trampoline

variable {Memory : Type}

theorem exists_of_forall₂ {Element Other : Type} {alike : Element → Other → Prop}
    {items : List Element} {others : List Other} (all : List.Forall₂ alike items others)
    {item : Element} (member : item ∈ items) : ∃ other ∈ others, alike item other := by
  induction all with
  | nil => cases member
  | cons here _ inductionHypothesis =>
      rcases List.mem_cons.1 member with rfl | later
      · exact ⟨_, .head _, here⟩
      · obtain ⟨other, found, same⟩ := inductionHypothesis later
        exact ⟨other, .tail _ found, same⟩

namespace Happening

def isGiven : Happening Memory → Bool
  | .looked _ _ | .answered _ | .panicked _ | .recalled _ _ => true
  | _ => false

/-- Whether it comes neither from a run nor from the code that it calls. -/
def isOfOthers : Happening Memory → Bool
  | .looked _ _ | .recalled _ _ => true
  | _ => false

def isOfCode : Happening Memory → Bool
  | .called _ _ | .answered _ | .panicked _ | .recalled _ _ => true
  | _ => false

end Happening

namespace Likeness

variable (likeness : Likeness Memory)

/-- What happens alike to two runs. -/
inductive Happenings : Happening Memory → Happening Memory → Prop where
  | started {plan other pending pending' token receiver receiver'}
      (plans : likeness.Plans plan other)
      (pendings : likeness.Stacks pending.toList pending'.toList) :
      Happenings (.started plan pending token receiver) (.started other pending' token receiver')
  | looked {token canceled} : Happenings (.looked token canceled) (.looked token canceled)
  | called {call other token} (calls : likeness.Calls call other) :
      Happenings (.called call token) (.called other token)
  | answered {form : Form} {answer other : Answer Memory form}
      (answers : likeness.Answers answer other) : Happenings (.answered answer) (.answered other)
  | panicked {panic other} (panics : likeness.panics panic other) :
      Happenings (.panicked panic) (.panicked other)
  | recalled {kept kept' plan other} (plans : likeness.Plans plan other) :
      Happenings (.recalled kept plan) (.recalled kept' other)
  | reached {epoch registration other token pending pending'}
      (plans : likeness.Plans (.async registration) (.async other))
      (pendings : likeness.Stacks pending.toList pending'.toList) :
      Happenings (.reached epoch registration token pending) (.reached epoch other token pending')
  | crossed {epoch outcome other} (outcomes : likeness.Outcomes outcome other) :
      Happenings (.crossed epoch outcome) (.crossed epoch other)
  | told {outcome other} (outcomes : likeness.Outcomes outcome other) :
      Happenings (.told outcome) (.told other)

inductive Given : Happening Memory → Happening Memory → Prop where
  | looked {token other canceled} : Given (.looked token canceled) (.looked other canceled)
  | answered {form : Form} {answer other : Answer Memory form}
      (answers : likeness.Answers answer other) : Given (.answered answer) (.answered other)
  | panicked {panic other} (panics : likeness.panics panic other) :
      Given (.panicked panic) (.panicked other)
  | recalled {kept kept' plan other} (plans : likeness.Plans plan other) :
      Given (.recalled kept plan) (.recalled kept' other)

/-- As long as all happens alike, what counts as given is given alike. -/
def GivenAlike (counts : Happening Memory → Bool) :
    List (Happening Memory) → List (Happening Memory) → Prop
  | happening :: rest, other :: others =>
      (counts happening = true → counts other = true → likeness.Given happening other) ∧
        (likeness.Happenings happening other → GivenAlike counts rest others)
  | _, _ => True

/-- Boundaries that two runs reach alike complete alike. -/
def Settles (happenings others : List (Happening Memory)) : Prop :=
  ∀ epoch happening other outcome outcome', happening ∈ happenings → other ∈ others →
    happening.epoch? = some epoch → likeness.Happenings happening other →
    .crossed epoch outcome ∈ happenings → .crossed epoch outcome' ∈ others →
      likeness.Outcomes outcome outcome'

/-- Runs that stand at the same place, or at the same boundary, which completes alike in all that
happens to them. -/
inductive Places (whole whole' : List (Happening Memory)) :
    Standing Memory → Standing Memory → Prop where
  | running {standing other} (standings : likeness.Standings standing other) :
      Places whole whole' standing other
  | suspended {epoch pending pending' token} (pendings : likeness.Stacks pending pending')
      (settled : ∀ outcome other, .crossed epoch outcome ∈ whole → .crossed epoch other ∈ whole' →
        likeness.Outcomes outcome other) :
      Places whole whole' (.suspended epoch pending token) (.suspended epoch pending' token)

/-- One of two runs has done what the other has, and may have gone on from there. -/
inductive InPace (whole whole' : List (Happening Memory)) : List (Happening Memory) →
    Standing Memory → List (Happening Memory) → Standing Memory → Prop where
  | behind {happenings front rest goal place goal'}
      (alike : List.Forall₂ likeness.Happenings happenings front)
      (places : likeness.Places whole whole' goal place)
      (leads : Standing.Leads place rest goal') :
      InPace whole whole' happenings goal (front ++ rest) goal'
  | ahead {front rest others place goal goal'}
      (alike : List.Forall₂ likeness.Happenings front others)
      (places : likeness.Places whole whole' place goal')
      (leads : Standing.Leads place rest goal) :
      InPace whole whole' (front ++ rest) goal others goal'

def Within (happenings others : List (Happening Memory)) : Prop :=
  ∃ front, front <+: others ∧ List.Forall₂ likeness.Happenings happenings front

def Covers (happenings others : List (Happening Memory)) : Prop :=
  ∃ front, front <+: happenings ∧ List.Forall₂ likeness.Happenings front others

/-- The same happens to two runs as far as both go, and to one that has told an outcome all that
happens to the other. -/
structure Agree (happenings others : List (Happening Memory)) : Prop where
  together : likeness.Within happenings others ∨ likeness.Covers happenings others
  first : ∀ outcome, .told outcome ∈ happenings → likeness.Covers happenings others
  second : ∀ outcome, .told outcome ∈ others → likeness.Within happenings others

variable {likeness}

theorem Happenings.epoch?_eq {happening other : Happening Memory}
    (alike : likeness.Happenings happening other) : happening.epoch? = other.epoch? := by
  cases alike <;> rfl

section Lists

variable {happenings others rest rest' : List (Happening Memory)}
  {counts : Happening Memory → Bool}

theorem GivenAlike.of_append
    (given : likeness.GivenAlike counts (happenings ++ rest) (others ++ rest')) :
    likeness.GivenAlike counts happenings others := by
  induction happenings generalizing others with
  | nil => simp [GivenAlike]
  | cons happening happenings inductionHypothesis =>
      cases others with
      | nil => simp [GivenAlike]
      | cons other others => exact ⟨given.1, fun alike => inductionHypothesis (given.2 alike)⟩

theorem GivenAlike.beyond
    (given : likeness.GivenAlike counts (happenings ++ rest) (others ++ rest'))
    (alike : List.Forall₂ likeness.Happenings happenings others) :
    likeness.GivenAlike counts rest rest' := by
  induction alike with
  | nil => exact given
  | cons here _ inductionHypothesis => exact inductionHypothesis (given.2 here)

theorem GivenAlike.of_self
    (given : ∀ happening ∈ happenings, counts happening = true → likeness.Given happening happening) :
    likeness.GivenAlike counts happenings happenings := by
  induction happenings with
  | nil => trivial
  | cons happening rest inductionHypothesis =>
      exact ⟨fun here _ => given _ (.head _) here,
        fun _ => inductionHypothesis fun _ member => given _ (.tail _ member)⟩

theorem Consistent.nil_right (moments : List (Moment Memory)) : likeness.Consistent moments [] := by
  cases moments with
  | nil => trivial
  | cons moment _ => cases moment <;> trivial

section Exchange

variable {happening other : Happening Memory} {moments moments' : List (Moment Memory)}
  (exchange : happening.isOfCode = true) (exchange' : other.isOfCode = true)
include exchange exchange'

theorem consistent_shown
    (given : happening.isGiven = true → other.isGiven = true → likeness.Given happening other)
    (later : likeness.Happenings happening other → likeness.Consistent moments moments') :
    likeness.Consistent (happening.shown ++ moments) (other.shown ++ moments') := by
  cases happening with
  | called call token =>
      cases other with
      | called =>
          intro queries
          cases queries with
          | call calls => exact later (.called calls)
      | recalled =>
          intro queries
          cases queries
      | answered | panicked => trivial
      | _ => cases exchange'
  | answered answer =>
      cases other with
      | answered =>
          cases given rfl rfl with
          | answered answers => exact ⟨.answered answers, later (.answered answers)⟩
      | panicked => cases given rfl rfl
      | called | recalled => trivial
      | _ => cases exchange'
  | panicked panic =>
      cases other with
      | panicked =>
          cases given rfl rfl with
          | panicked panics => exact ⟨.panicked panics, later (.panicked panics)⟩
      | answered => cases given rfl rfl
      | called | recalled => trivial
      | _ => cases exchange'
  | recalled kept plan =>
      cases other with
      | recalled =>
          cases given rfl rfl with
          | recalled plans => exact fun _ => ⟨.recalled plans, later (.recalled plans)⟩
      | called =>
          intro queries
          cases queries
      | answered | panicked => trivial
      | _ => cases exchange'
  | _ => cases exchange

theorem alike_of_shown
    (together : likeness.Together (happening.shown ++ moments) (other.shown ++ moments')) :
    likeness.Happenings happening other ∧ likeness.Together moments moments' ∧
      happening.shown.length = other.shown.length := by
  cases happening with
  | called call token =>
      cases other with
      | called =>
          obtain ⟨⟨⟨calls⟩⟩, later⟩ := together
          exact ⟨.called calls, later, rfl⟩
      | recalled => obtain ⟨⟨⟨⟩⟩, _⟩ := together
      | answered | panicked => obtain ⟨⟨⟩, _⟩ := together
      | _ => cases exchange'
  | answered answer =>
      cases other with
      | answered =>
          obtain ⟨_ | replies, later⟩ := together
          cases replies with
          | answered answers => exact ⟨.answered answers, later, rfl⟩
      | panicked => obtain ⟨_ | ⟨⟨⟩⟩, _⟩ := together
      | called | recalled => obtain ⟨⟨⟩, _⟩ := together
      | _ => cases exchange'
  | panicked panic =>
      cases other with
      | panicked =>
          obtain ⟨_ | replies, later⟩ := together
          exact ⟨.panicked replies.panics, later, rfl⟩
      | answered => obtain ⟨_ | ⟨⟨⟩⟩, _⟩ := together
      | called | recalled => obtain ⟨⟨⟩, _⟩ := together
      | _ => cases exchange'
  | recalled kept plan =>
      cases other with
      | recalled =>
          obtain ⟨_, _ | replies, later⟩ := together
          exact ⟨.recalled replies.recalled_plans, later, rfl⟩
      | called => obtain ⟨⟨⟨⟩⟩, _⟩ := together
      | answered | panicked => obtain ⟨⟨⟩, _⟩ := together
      | _ => cases exchange'
  | _ => cases exchange

end Exchange

section Exchanges

variable (exchanges : ∀ happening ∈ happenings, happening.isOfCode = true)
  (exchanges' : ∀ happening ∈ others, happening.isOfCode = true)
include exchanges exchanges'

theorem GivenAlike.consistent
    (given : likeness.GivenAlike Happening.isGiven happenings others) :
    likeness.Consistent (happenings.flatMap Happening.shown) (others.flatMap Happening.shown) := by
  induction happenings generalizing others with
  | nil => simp [Consistent]
  | cons happening happenings inductionHypothesis =>
      cases others with
      | nil => exact .nil_right _
      | cons other others =>
          refine consistent_shown (exchanges _ (.head _)) (exchanges' _ (.head _)) given.1 ?_
          intro alike
          refine inductionHypothesis ?_ ?_ (given.2 alike)
          · exact fun _ member => exchanges _ (.tail _ member)
          · exact fun _ member => exchanges' _ (.tail _ member)

theorem Together.forall₂_of_shown
    (together : likeness.Together (happenings.flatMap Happening.shown)
      (others.flatMap Happening.shown))
    (length : (happenings.flatMap Happening.shown).length =
      (others.flatMap Happening.shown).length) :
    List.Forall₂ likeness.Happenings happenings others := by
  induction happenings generalizing others with
  | nil =>
      cases others with
      | nil => exact .nil
      | cons other others =>
          have exchange' := exchanges' _ (.head _)
          cases other <;> first | cases length | cases exchange'
  | cons happening happenings inductionHypothesis =>
      have exchange := exchanges _ (.head _)
      cases others with
      | nil => cases happening <;> first | cases length | cases exchange
      | cons other others =>
          obtain ⟨alike, later, same⟩ :=
            alike_of_shown exchange (exchanges' _ (.head _)) together
          rw [List.flatMap_cons, List.flatMap_cons, List.length_append, List.length_append, same]
            at length
          refine .cons alike (inductionHypothesis ?_ ?_ later (Nat.add_left_cancel length))
          · exact fun _ member => exchanges _ (.tail _ member)
          · exact fun _ member => exchanges' _ (.tail _ member)

end Exchanges

end Lists

end Likeness

namespace Standing

variable {standing next : Standing Memory} {happenings : List (Happening Memory)}
  {pending : List (Frame Memory)} {token : Token}

/-- An iteration starts with a look at the token; unless it comes to a boundary, code has a part in
all the rest. -/
theorem Step.of_iterating {plan : Plan Memory}
    (step : Step (.iterating plan pending token) happenings next) :
    ∃ canceled rest, happenings = .looked token canceled :: rest ∧
      (Standing.isPassage (fun _ => canceled) (.iterating plan pending token) = false →
        ∀ happening ∈ rest, happening.isOfCode = true) := by
  cases step with
  | stop => exact ⟨true, [], rfl, by simp⟩
  | reach => exact ⟨false, _, rfl, fun inner => Bool.noConfusion inner⟩
  | _ => exact ⟨false, _, rfl, by simp [Happening.isOfCode]⟩

theorem Looks.of_code {canceled : Token → Bool}
    (exchanges : ∀ happening ∈ happenings, happening.isOfCode = true) :
    Looks canceled happenings := by
  intro token found looked
  cases exchanges _ looked

theorem Looks.looked {canceled : Bool}
    (exchanges : ∀ happening ∈ happenings, happening.isOfCode = true) :
    Looks (fun _ => canceled) (.looked token canceled :: happenings) := by
  have later : Looks (fun _ => canceled) happenings := .of_code exchanges
  intro other found member
  rcases List.mem_cons.1 member with same | late
  · cases same
    rfl
  · exact later _ _ late

def awaited? : Standing Memory → Option Nat
  | .suspended epoch _ _ => some epoch
  | _ => none

/-- Whether a run goes on only if its boundary completes. -/
def isStill : Standing Memory → Bool
  | .suspended _ _ _ | .ended _ => true
  | _ => false

theorem Leads.of_still {goal : Standing Memory} (leads : Leads standing happenings goal)
    (still : standing.isStill = true) :
    happenings = [] ∨ ∃ epoch outcome, standing.awaited? = some epoch ∧
      .crossed epoch outcome ∈ happenings := by
  obtain ⟨count, path⟩ := leads
  cases path with
  | done => exact .inl rfl
  | step step =>
      cases step with
      | cross => exact .inr ⟨_, _, rfl, .head _⟩
      | _ => cases still

/-- Where a run has a result, or has called code, code has a part in all that happens. -/
theorem Step.isOfCode (step : Step standing happenings next)
    (midway : (∃ result pending token, standing = .feeding result pending token) ∨
      ∃ site pending token, standing = .calling site pending token) :
    ∀ happening ∈ happenings, happening.isOfCode = true := by
  rcases midway with ⟨result, pending, token, rfl⟩ | ⟨site, pending, token, rfl⟩
  all_goals cases step <;> simp [Happening.isOfCode]

end Standing

namespace Likeness

variable {likeness : Likeness Memory} {whole whole' : List (Happening Memory)}

/-- What happens to two runs in a step is alike, and then they are at the same place, after as many
boundaries. -/
structure Follows (likeness : Likeness Memory) (whole whole' : List (Happening Memory))
    (happenings happenings' rest rest' : List (Happening Memory)) (next next' : Standing Memory) :
    Prop where
  alike : List.Forall₂ likeness.Happenings happenings happenings'
  places : likeness.Places whole whole' next next'
  numbered : ∃ reached, Numbered reached rest ∧ Numbered reached rest'

theorem Plans.of_async (kept : ∀ register, likeness.replaced register = none)
    {registration : Registration Memory} {other : Plan Memory}
    (plans : likeness.Plans (.async registration) other) :
    ∃ registration', other = .async registration' := by
  cases plans with
  | replaced known => cases (kept _).symm.trans known
  | sequencing first => cases first
  | calling | hopping | finishing => exact ⟨_, rfl⟩

section Steps

variable {happenings happenings' rest rest' : List (Happening Memory)}
  {standing standing' next next' : Standing Memory} {reached : Nat}
  (numbered : Numbered reached (happenings ++ rest))
  (numbered' : Numbered reached (happenings' ++ rest'))
include numbered numbered'

theorem Standings.follows (standings : likeness.Standings standing standing')
    (step : Standing.Step standing happenings next)
    (step' : Standing.Step standing' happenings' next') {canceled : Token → Bool}
    (inner : standing.isPassage canceled = false) (looks : Standing.Looks canceled happenings)
    (looks' : Standing.Looks canceled happenings')
    (consistent : likeness.Consistent (happenings.flatMap Happening.shown)
      (happenings'.flatMap Happening.shown))
    (shows : likeness.Together (happenings.flatMap Happening.shown)
        (happenings'.flatMap Happening.shown) →
      (happenings.flatMap Happening.shown).length =
        (happenings'.flatMap Happening.shown).length →
      List.Forall₂ likeness.Happenings happenings happenings') :
    likeness.Follows whole whole' happenings happenings' rest rest' next next' := by
  obtain ⟨together, length, later⟩ := standings.advance step step' inner looks looks' consistent
  refine ⟨shows together length, .running later, reached, ?_, ?_⟩
  · exact (Numbered.append_iff (step.isPassage looks inner)).1 numbered
  · exact (Numbered.append_iff (step'.isPassage looks' (standings.isPassage inner))).1 numbered'

variable (given : likeness.GivenAlike Happening.isGiven (happenings ++ rest) (happenings' ++ rest'))
include given

theorem Standings.follows_of_code (standings : likeness.Standings standing standing')
    (step : Standing.Step standing happenings next)
    (step' : Standing.Step standing' happenings' next')
    (inner : standing.isPassage (fun _ => false) = false)
    (exchanges : ∀ happening ∈ happenings, happening.isOfCode = true)
    (exchanges' : ∀ happening ∈ happenings', happening.isOfCode = true) :
    likeness.Follows whole whole' happenings happenings' rest rest' next next' := by
  exact standings.follows numbered numbered' step step' inner (.of_code exchanges)
    (.of_code exchanges') (given.of_append.consistent exchanges exchanges')
    fun together => together.forall₂_of_shown exchanges exchanges'

variable {plan other : Plan Memory} {pending pending' : List (Frame Memory)} {token : Token}

theorem Plans.follows (kept : ∀ register, likeness.replaced register = none)
    (settles : likeness.Settles whole whole') (within : happenings ⊆ whole)
    (within' : happenings' ⊆ whole') (plans : likeness.Plans plan other)
    (pendings : likeness.Stacks pending pending')
    (step : Standing.Step (.iterating plan pending token) happenings next)
    (step' : Standing.Step (.iterating other pending' token) happenings' next') :
    likeness.Follows whole whole' happenings happenings' rest rest' next next' := by
  have standings : likeness.Standings (.iterating plan pending token)
      (.iterating other pending' token) := .iterating plans pendings
  obtain ⟨canceled, more, rfl, exchanges⟩ := step.of_iterating
  obtain ⟨canceled', more', rfl, exchanges'⟩ := step'.of_iterating
  obtain ⟨looked, later⟩ := given
  cases looked rfl rfl
  -- Both looks find the same, though the one token may be canceled at other times.
  cases inner : Standing.isPassage (fun _ => canceled) (.iterating plan pending token) with
  | false =>
      have exchanges := exchanges inner
      have exchanges' := exchanges' (standings.isPassage inner)
      have consistent := (later .looked).of_append.consistent exchanges exchanges'
      exact standings.follows numbered numbered' step step' inner (.looked exchanges)
        (.looked exchanges') consistent
        fun together length => .cons .looked (together.forall₂_of_shown exchanges exchanges' length)
  | true =>
      obtain ⟨registration, rfl⟩ : ∃ registration, plan = .async registration := by
        cases plan <;> first | exact ⟨_, rfl⟩ | cases inner
      obtain ⟨registration', rfl⟩ := plans.of_async kept
      obtain rfl : canceled = false := by simpa [Standing.isPassage] using inner
      obtain ⟨epoch, saved, rfl, rfl, rfl⟩ := step.of_async
      obtain ⟨epoch', saved', rfl, rfl, rfl⟩ := step'.of_async
      obtain ⟨rfl, beyond⟩ := Numbered.of_reached numbered
      obtain ⟨rfl, beyond'⟩ := Numbered.of_reached numbered'
      have alike : likeness.Happenings (.reached (reached + 1) registration token saved)
          (.reached (reached + 1) registration' token saved') := .reached plans pendings
      refine ⟨.cons .looked (.cons alike .nil), .suspended pendings ?_, _, beyond, beyond'⟩
      intro outcome outcome' crossed crossed'
      exact settles _ _ _ _ _ (within (.tail _ (.head _))) (within' (.tail _ (.head _))) rfl alike
        crossed crossed'

theorem Places.follows (kept : ∀ register, likeness.replaced register = none)
    (settles : likeness.Settles whole whole') (within : happenings ⊆ whole)
    (within' : happenings' ⊆ whole') (places : likeness.Places whole whole' standing standing')
    (step : Standing.Step standing happenings next)
    (step' : Standing.Step standing' happenings' next') :
    likeness.Follows whole whole' happenings happenings' rest rest' next next' := by
  cases places with
  | suspended pendings settled =>
      cases step
      cases step'
      have outcomes := settled _ _ (within (.head _)) (within' (.head _))
      exact ⟨.cons (.crossed outcomes) .nil, .running (.after outcomes pendings _), reached,
        numbered.of_crossed, numbered'.of_crossed⟩
  | running standings =>
      cases standings with
      | iterating plans pendings =>
          exact plans.follows numbered numbered' given kept settles within within' pendings step
            step'
      | feeding results pendings =>
          have exchanges := step.isOfCode (.inl ⟨_, _, _, rfl⟩)
          have exchanges' := step'.isOfCode (.inl ⟨_, _, _, rfl⟩)
          exact (Standings.feeding results pendings).follows_of_code numbered numbered' given step
            step' rfl exchanges exchanges'
      | calling sites pendings =>
          have exchanges := step.isOfCode (.inr ⟨_, _, _, rfl⟩)
          have exchanges' := step'.isOfCode (.inr ⟨_, _, _, rfl⟩)
          exact (Standings.calling sites pendings).follows_of_code numbered numbered' given step
            step' rfl exchanges exchanges'
      | ending outcomes =>
          cases step
          cases step'
          exact ⟨.cons (.told outcomes) .nil, .running (.ended outcomes), reached, numbered,
            numbered'⟩
      | ended => cases step

end Steps

theorem Places.awaited?_eq {standing other : Standing Memory}
    (places : likeness.Places whole whole' standing other) :
    standing.awaited? = other.awaited? := by
  cases places with
  | suspended => rfl
  | running standings => cases standings <;> rfl

theorem Places.isStill_eq {standing other : Standing Memory}
    (places : likeness.Places whole whole' standing other) : standing.isStill = other.isStill := by
  cases places with
  | suspended => rfl
  | running standings => cases standings <;> rfl

namespace InPace

variable {happenings others rest rest' : List (Happening Memory)} {goal goal' : Standing Memory}

theorem append (alike : List.Forall₂ likeness.Happenings happenings others)
    (pace : likeness.InPace whole whole' rest goal rest' goal') :
    likeness.InPace whole whole' (happenings ++ rest) goal (others ++ rest') goal' := by
  cases pace with
  | behind later places leads =>
      rw [← List.append_assoc]
      exact .behind (List.rel_append alike later) places leads
  | ahead later places leads =>
      rw [← List.append_assoc]
      exact .ahead (List.rel_append alike later) places leads

theorem within_or_covers (pace : likeness.InPace whole whole' happenings goal others goal') :
    likeness.Within happenings others ∨ likeness.Covers happenings others := by
  cases pace with
  | behind alike => exact .inl ⟨_, List.prefix_append _ _, alike⟩
  | ahead alike => exact .inr ⟨_, List.prefix_append _ _, alike⟩

/-- A run that has ended does not go on, so the other is behind at most. -/
theorem covers (pace : likeness.InPace whole whole' happenings goal others goal')
    {outcome : Outcome Value} (ended : goal = .ended outcome) :
    likeness.Covers happenings others := by
  subst ended
  cases pace with
  | behind alike places leads =>
      rcases leads.of_still (places.isStill_eq.symm.trans rfl) with rfl | ⟨epoch, _, awaited, _⟩
      · exact ⟨_, List.prefix_refl _, by simpa using alike⟩
      · cases places.awaited?_eq.trans awaited
  | ahead alike => exact ⟨_, List.prefix_append _ _, alike⟩

theorem within (pace : likeness.InPace whole whole' happenings goal others goal')
    {outcome : Outcome Value} (ended : goal' = .ended outcome) :
    likeness.Within happenings others := by
  subst ended
  cases pace with
  | behind alike => exact ⟨_, List.prefix_append _ _, alike⟩
  | ahead alike places leads =>
      rcases leads.of_still (places.isStill_eq.trans rfl) with rfl | ⟨epoch, _, awaited, _⟩
      · exact ⟨_, List.prefix_refl _, by simpa using alike⟩
      · cases places.awaited?_eq.symm.trans awaited

/-- Where neither run goes on by itself, the same has happened to both, or one has crossed the
boundary that the other is at. -/
theorem forall₂_or_crossed (pace : likeness.InPace whole whole' happenings goal others goal')
    (still : goal.isStill = true) (still' : goal'.isStill = true) :
    List.Forall₂ likeness.Happenings happenings others ∨
      ∃ epoch outcome, (goal.awaited? = some epoch ∧ .crossed epoch outcome ∈ others) ∨
        (goal'.awaited? = some epoch ∧ .crossed epoch outcome ∈ happenings) := by
  cases pace with
  | behind alike places leads =>
      rcases leads.of_still (places.isStill_eq.symm.trans still) with
        rfl | ⟨epoch, outcome, awaited, crossed⟩
      · exact .inl (by simpa using alike)
      · exact .inr ⟨epoch, outcome, .inl ⟨places.awaited?_eq.trans awaited,
          List.mem_append_right _ crossed⟩⟩
  | ahead alike places leads =>
      rcases leads.of_still (places.isStill_eq.trans still') with
        rfl | ⟨epoch, outcome, awaited, crossed⟩
      · exact .inl (by simpa using alike)
      · exact .inr ⟨epoch, outcome, .inr ⟨places.awaited?_eq.symm.trans awaited,
          List.mem_append_right _ crossed⟩⟩

/-- Of two things that happened to two runs one at least happened alike to the other run. -/
theorem partner (pace : likeness.InPace whole whole' happenings goal others goal')
    {happening other : Happening Memory} (member : happening ∈ happenings)
    (member' : other ∈ others) :
    (∃ partner ∈ others, likeness.Happenings happening partner) ∨
      ∃ partner ∈ happenings, likeness.Happenings partner other := by
  cases pace with
  | behind alike =>
      obtain ⟨partner, here, same⟩ := exists_of_forall₂ alike member
      exact .inl ⟨partner, List.mem_append_left _ here, same⟩
  | ahead alike =>
      obtain ⟨partner, here, same⟩ := exists_of_forall₂ alike.flip member'
      exact .inr ⟨partner, List.mem_append_left _ here, same⟩

end InPace

theorem Places.inPace (kept : ∀ register, likeness.replaced register = none)
    (settles : likeness.Settles whole whole') {standing standing' goal goal' : Standing Memory}
    {happenings happenings' : List (Happening Memory)} {count count' reached : Nat}
    (places : likeness.Places whole whole' standing standing')
    (path : Standing.Path count standing happenings goal)
    (path' : Standing.Path count' standing' happenings' goal')
    (given : likeness.GivenAlike Happening.isGiven happenings happenings') (within : happenings ⊆ whole)
    (within' : happenings' ⊆ whole') (numbered : Numbered reached happenings)
    (numbered' : Numbered reached happenings') :
    likeness.InPace whole whole' happenings goal happenings' goal' := by
  -- Along both paths as many boundaries have been reached, so that those that come have one number.
  induction path generalizing standing' happenings' count' reached with
  | done => exact .behind .nil places ⟨_, path'⟩
  | @step count _ next goal first rest step path inductionHypothesis =>
      cases path' with
      | done =>
          show likeness.InPace whole whole' ([] ++ (first ++ rest)) goal [] _
          exact .ahead .nil places ⟨_, .step step path⟩
      | @step count' _ next' _ first' rest' step' path' =>
          have follows := places.follows numbered numbered' given kept settles
            (List.Subset.trans (List.subset_append_left first rest) within)
            (List.Subset.trans (List.subset_append_left first' rest') within') step step'
          obtain ⟨later, numbered, numbered'⟩ := follows.numbered
          refine .append follows.alike (inductionHypothesis follows.places path'
            (given.beyond follows.alike) ?_ ?_ numbered numbered')
          · exact List.Subset.trans (List.subset_append_right first rest) within
          · exact List.Subset.trans (List.subset_append_right first' rest') within'

end Likeness

end Trampoline
