import Trampoline.Proofs.Answering

/-!
What code replies, and what others do.

A function may reply in one way or another, since its code asks the host, which tells it what has
happened so far.  If functions that may stand for each other reply alike whatever they are told, then
two executions of programs that are made of them are consistent as soon as what others reply is
alike: what boundaries complete with, which plans are held, and whether contexts take what they are
given.  For in a transcript every reply comes right after what it replies to.
-/

namespace Trampoline

variable {Memory : Type}

/-! ### Transcripts as exchanges -/

/-- Whether a reply is that of code: no function of a program answers with nothing. -/
def Reply.isOfCode : Reply Memory → Bool
  | .answered .unit | .crossed _ | .recalled _ => false
  | .answered _ | .panicked _ => true

def Query.isCall : Query Memory → Bool
  | .call _ _ => true
  | .reach _ _ | .lookUp _ => false

/-- How a query may be replied, up to a view of replies: a call as its code ends, and anything else
by others. -/
inductive Query.May (view : Reply Memory → Reply Memory) : Query Memory → Reply Memory → Prop where
  | call {call token reply} (may : call.May reply) : May view (.call call token) (view reply)
  | other {query reply} (isCall : query.isCall = false) (isOfCode : reply.isOfCode = false) :
      May view query reply

section Exchanges

variable (may : Query Memory → Reply Memory → Prop)

/-- Every reply is one that what was asked just before may be given. -/
def Exchanges : Option (Query Memory) → List (Moment Memory) → Prop
  | _, [] => True
  | _, .asked query :: rest => Exchanges (some query) rest
  | asked?, .replied reply :: rest => (∃ query ∈ asked?, may query reply) ∧ Exchanges none rest

variable {may} {asked? : Option (Query Memory)} {moments rest : List (Moment Memory)}

theorem Exchanges.of_none (exchanges : Exchanges may none moments) :
    Exchanges may asked? moments := by
  cases moments with
  | nil => trivial
  | cons moment moments =>
      cases moment with
      | asked query => exact exchanges
      | replied reply =>
          obtain ⟨⟨_, absurd, _⟩, _⟩ := exchanges
          cases absurd

theorem Exchanges.append (exchanges : Exchanges may asked? moments)
    (later : Exchanges may none rest) : Exchanges may asked? (moments ++ rest) := by
  induction moments generalizing asked? with
  | nil => exact later.of_none
  | cons moment moments inductionHypothesis =>
      cases moment with
      | asked query => exact inductionHypothesis exchanges
      | replied reply => exact ⟨exchanges.1, inductionHypothesis exchanges.2⟩

end Exchanges

/-! ### Functions that are determined -/

namespace Likeness

variable (likeness : Likeness Memory) (view view' : Reply Memory → Reply Memory)

/-- Functions that may stand for each other reply alike to arguments that are, whatever their code is
told. -/
def Determined : Prop :=
  ∀ call call', likeness.Calls call call' → ∀ reply reply', call.May reply → call'.May reply' →
    likeness.Replies (view reply) (view' reply')

/-- As long as the same is asked and replied, others than code reply alike. -/
def Settled : List (Moment Memory) → List (Moment Memory) → Prop
  | .asked query :: rest, .asked other :: others =>
      likeness.Queries query other → Settled rest others
  | .replied reply :: rest, .replied other :: others =>
      (reply.isOfCode = false → other.isOfCode = false → likeness.Replies reply other) ∧
        (likeness.Replies reply other → Settled rest others)
  | _, _ => True

/-- What is asked alike is replied alike: because functions are determined and others reply alike,
or as it happens. -/
def Reliable (moments others : List (Moment Memory)) : Prop :=
  (likeness.Determined view view' ∧ likeness.Settled moments others) ∨
    likeness.Consistent moments others

/-- Only some functions are made use of, each for itself; of panics only the messages count. -/
def among (members : Closure Memory → Prop) : Likeness Memory where
  panics panic other := panic.message = other.message
  panics_refl _ := rfl
  functions closure other := closure = other ∧ members closure
  replaced _ := none

variable {likeness view view'}

/-- Functions whose code is an answer are determined if the answers are alike. -/
theorem determined_of_answers
    (answers : ∀ call call', likeness.Calls call call' → ∃ answer answer',
      call.code = .done answer ∧ call'.code = .done answer' ∧
        likeness.Replies (view (.answered answer)) (view' (.answered answer'))) :
    likeness.Determined view view' := by
  intro call call' calls reply reply' may may'
  obtain ⟨answer, answer', ready, ready', alike⟩ := answers call call' calls
  rw [may.eq_answered ready, may'.eq_answered ready']
  exact alike

theorem Determined.replies (determined : likeness.Determined view view')
    {query query' : Query Memory} {reply reply' : Reply Memory} (may : query.May view reply)
    (may' : query'.May view' reply') (queries : likeness.Queries query query')
    (settled : reply.isOfCode = false → reply'.isOfCode = false → likeness.Replies reply reply') :
    likeness.Replies reply reply' := by
  cases may with
  | call may =>
      cases queries with
      | call calls =>
          cases may' with
          | call may' => exact determined _ _ calls _ _ may may'
          | other isCall => cases isCall
  | other isCall isOfCode =>
      cases may' with
      | call may' =>
          cases queries
          cases isCall
      | other isCall' isOfCode' => exact settled isOfCode isOfCode'

/-- Where functions are determined, it is only others who have to reply alike. -/
theorem Determined.consistent (determined : likeness.Determined view view')
    {asked? asked?' : Option (Query Memory)} {moments others : List (Moment Memory)}
    (exchanges : Exchanges (Query.May view) asked? moments)
    (exchanges' : Exchanges (Query.May view') asked?' others)
    (alike : ∀ query ∈ asked?, ∀ query' ∈ asked?', likeness.Queries query query')
    (settled : likeness.Settled moments others) : likeness.Consistent moments others := by
  induction moments generalizing others asked? asked?' with
  | nil => simp [Consistent]
  | cons moment moments inductionHypothesis =>
      cases others with
      | nil => simp [Consistent]
      | cons other others =>
          cases moment with
          | asked query =>
              cases other with
              | replied => trivial
              | asked query' =>
                  intro queries
                  refine inductionHypothesis exchanges exchanges' ?_ (settled queries)
                  rintro _ ⟨⟩ _ ⟨⟩
                  exact queries
          | replied reply =>
              cases other with
              | asked => trivial
              | replied reply' =>
                  obtain ⟨⟨query, asked, may⟩, later⟩ := exchanges
                  obtain ⟨⟨query', asked', may'⟩, later'⟩ := exchanges'
                  have replies := determined.replies may may' (alike _ asked _ asked') settled.1
                  exact ⟨replies, inductionHypothesis later later' (by rintro _ ⟨⟩) (settled.2 replies)⟩

theorem Reliable.consistent {moments others : List (Moment Memory)}
    (reliable : likeness.Reliable view view' moments others)
    (exchanges : Exchanges (Query.May view) none moments)
    (exchanges' : Exchanges (Query.May view') none others) :
    likeness.Consistent moments others := by
  rcases reliable with ⟨determined, settled⟩ | consistent
  · exact determined.consistent exchanges exchanges' (by rintro _ ⟨⟩) settled
  · exact consistent

end Likeness

/-! ### Replies to runs -/

def Linked (fits : Option (Happening Memory) → Happening Memory → Prop) :
    Option (Happening Memory) → List (Happening Memory) → Prop
  | _, [] => True
  | last?, happening :: rest => fits last? happening ∧ Linked fits (some happening) rest

section Linked

variable {fits : Option (Happening Memory) → Happening Memory → Prop}
  {last? : Option (Happening Memory)} {happenings rest : List (Happening Memory)}

theorem linked_append : Linked fits last? (happenings ++ rest) ↔
    Linked fits last? happenings ∧ Linked fits (happenings.getLast?.or last?) rest := by
  induction happenings generalizing last? with
  | nil => simp [Linked]
  | cons happening happenings inductionHypothesis =>
      simp only [List.cons_append, Linked, inductionHypothesis, and_assoc, List.getLast?_cons]
      cases happenings.getLast? <;> simp

theorem Linked.of_append {last : Happening Memory}
    (linked : Linked fits last? (happenings ++ last :: rest)) : Linked fits (some last) rest :=
  (linked_append.1 linked).2.2

end Linked

def Happening.Serves (last? : Option (Happening Memory)) (happening : Happening Memory) : Prop :=
  ∀ call token, last? = some (.called call token) → call.Replied happening

/-- A reply comes right after what it replies to. -/
def Happening.RepliesTo (last? : Option (Happening Memory)) : Happening Memory → Prop
  | .answered answer =>
      ∃ call token, last? = some (.called call token) ∧ call.May (.answered answer)
  | .panicked panic =>
      ∃ call token, last? = some (.called call token) ∧ call.May (.panicked panic)
  | .crossed _ _ =>
      ∃ epoch registration token pending,
        last? = some (.reached epoch registration token pending)
  | _ => True

namespace Standing

/-- A run waits for what it has asked last. -/
def Follows (last? : Option (Happening Memory)) : Standing Memory → Prop
  | .calling _ _ _ => ∃ call token, last? = some (.called call token)
  | .suspended _ _ _ =>
      ∃ epoch registration token pending, last? = some (.reached epoch registration token pending)
  | _ => True

variable {standing next goal : Standing Memory} {last? : Option (Happening Memory)}
  {happenings : List (Happening Memory)}

theorem follows_after (outcome : Outcome Value) (pending : List (Frame Memory)) (token : Token) :
    (after outcome pending token).Follows last? := by
  cases outcome <;> trivial

theorem Follows.replied {site : Site Memory} {pending : List (Frame Memory)} {token : Token}
    {happening : Happening Memory} (follows : (calling site pending token).Follows last?)
    (serves : happening.Serves last?) :
    ∃ call token, last? = some (.called call token) ∧ call.Replied happening := by
  obtain ⟨call, current, last⟩ := follows
  exact ⟨call, current, last, serves call current last⟩

theorem Step.replying (step : Step standing happenings next) (follows : standing.Follows last?)
    (served : Linked Happening.Serves last? happenings) :
    Linked Happening.RepliesTo last? happenings ∧
      next.Follows (happenings.getLast?.or last?) := by
  have answers {form : Form} {site : Site Memory} {pending : List (Frame Memory)} {token : Token}
      {answer : Answer Memory form} (same : standing = .calling site pending token)
      (listed : happenings = [.answered answer]) :
      (Happening.answered answer).RepliesTo last? := by
    subst same listed
    obtain ⟨call, current, last, reply, shown, may⟩ := follows.replied served.1
    cases shown
    exact ⟨call, current, last, may⟩
  have panics {site : Site Memory} {pending : List (Frame Memory)} {token : Token} {panic : Panic}
      {later : List (Happening Memory)} (same : standing = .calling site pending token)
      (listed : happenings = .panicked panic :: later) :
      (Happening.panicked panic : Happening Memory).RepliesTo last? := by
    subst same listed
    obtain ⟨call, current, last, reply, shown, may⟩ := follows.replied served.1
    cases shown
    exact ⟨call, current, last, may⟩
  cases step with
  | suspend | delay | «switch» => exact ⟨⟨trivial, trivial, trivial⟩, _, _, rfl⟩
  | reach => exact ⟨⟨trivial, trivial, trivial⟩, _, _, _, _, rfl⟩
  | meet => exact ⟨⟨trivial, trivial⟩, _, _, rfl⟩
  | suspendPanic | delayPanic => exact ⟨⟨panics rfl rfl, trivial, trivial⟩, _, _, rfl⟩
  | nameDelayedPanic | panic => exact ⟨⟨panics rfl rfl, trivial⟩, trivial⟩
  | cross => exact ⟨⟨follows, trivial⟩, follows_after _ _ _⟩
  | suspendAnswer | delayAnswer | nameSuspendedAnswer | nameDelayedAnswer | continueAnswer | mapAnswer
  | sameToken | otherToken | scopedToken | restoreAnswer =>
      exact ⟨⟨answers rfl rfl, trivial⟩, trivial⟩
  | lookUp => exact ⟨⟨trivial, trivial, trivial⟩, trivial⟩
  | skip | conclude => exact ⟨trivial, trivial⟩
  | _ => exact ⟨⟨trivial, trivial⟩, trivial⟩

/-- Where calls are replied to as their code ends, replies come right after what they reply to. -/
theorem Path.replying {count : Nat} (path : Path count standing happenings goal)
    (follows : standing.Follows last?)
    (served : Linked Happening.Serves last? happenings) :
    Linked Happening.RepliesTo last? happenings := by
  induction path generalizing last? with
  | done => trivial
  | step taken path inductionHypothesis =>
      obtain ⟨here, later⟩ := linked_append.1 served
      obtain ⟨replying, goesOn⟩ := taken.replying follows here
      exact linked_append.2 ⟨replying, inductionHypothesis goesOn later⟩

end Standing

/-- What is asked of others than the host, and not replied to yet. -/
def Happening.asked? (hidden : Registration Memory → Bool) : Happening Memory → Option (Query Memory)
  | .called call token => some (.call call token)
  | .reached _ registration token _ =>
      if registration.isNested || hidden registration then none
      else some (.reach registration token)
  | _ => none

section Transcript

variable (hidden : Registration Memory → Bool)
  {nested : Registration Memory → Nat → Token → List (Moment Memory)}
  {happenings : List (Happening Memory)}

/-- The transcript of what replies to what is one of exchanges, if those of nested runs are. -/
theorem Linked.exchanges {last? : Option (Happening Memory)}
    (replying : Linked Happening.RepliesTo last? happenings)
    (boundary? : Option (Registration Memory))
    (last : ∀ epoch registration token pending,
      last? = some (.reached epoch registration token pending) → boundary? = some registration)
    (inner : ∀ epoch registration token pending,
      .reached epoch registration token pending ∈ happenings → registration.isNested = true →
        Exchanges (Query.May id) none (nested registration epoch token)) :
    Exchanges (Query.May id) (last?.bind (Happening.asked? hidden))
      (transcript hidden nested boundary? happenings) := by
  induction happenings generalizing last? boundary? with
  | nil => trivial
  | cons happening rest inductionHypothesis =>
      obtain ⟨here, later⟩ := replying
      have nests := fun epoch registration token pending member =>
        inner epoch registration token pending (.tail _ member)
      cases happening with
      | reached epoch registration token pending =>
          have goesOn := inductionHypothesis later (some registration)
            (by rintro _ _ _ _ ⟨⟩; rfl) nests
          cases registration with
          | calling register =>
              simp only [transcript, Registration.opening]
              split
              · rename_i hides
                simp only [Option.bind_some, Happening.asked?, Registration.isNested, hides] at goesOn
                exact goesOn.of_none
              · rename_i shows
                simp only [Option.bind_some, Happening.asked?, Registration.isNested, shows] at goesOn
                exact goesOn
          | hopping | finishing =>
              exact (inner _ _ _ _ (.head _) rfl).of_none.append goesOn
      | crossed epoch outcome =>
          have goesOn := inductionHypothesis later none (by rintro _ _ _ _ ⟨⟩) nests
          obtain ⟨number, registration, token, pending, rfl⟩ := here
          obtain rfl := last _ _ _ _ rfl
          cases registration with
          | calling register =>
              simp only [transcript, Option.toList_some, List.flatMap_singleton,
                Registration.closing]
              split
              · exact goesOn.of_none
              · rename_i shows
                refine ⟨⟨.reach (.calling register) token, ?_, .other rfl rfl⟩, goesOn⟩
                simp [Happening.asked?, Registration.isNested, shows]
          | hopping | finishing => exact goesOn.of_none
      | answered answer =>
          obtain ⟨call, token, rfl, may⟩ := here
          have goesOn := inductionHypothesis later boundary? (by rintro _ _ _ _ ⟨⟩) nests
          exact ⟨⟨.call call token, rfl, .call may⟩, goesOn⟩
      | panicked panic =>
          obtain ⟨call, token, rfl, may⟩ := here
          have goesOn := inductionHypothesis later boundary? (by rintro _ _ _ _ ⟨⟩) nests
          exact ⟨⟨.call call token, rfl, .call may⟩, goesOn⟩
      | recalled kept plan =>
          have goesOn := inductionHypothesis later boundary? (by rintro _ _ _ _ ⟨⟩) nests
          exact ⟨⟨.lookUp kept, rfl, .other rfl rfl⟩, goesOn⟩
      | called call token => exact inductionHypothesis later _ (by rintro _ _ _ _ ⟨⟩) nests
      | _ => exact (inductionHypothesis later _ (by rintro _ _ _ _ ⟨⟩) nests).of_none

end Transcript

namespace Chronicle

variable {chronicle : Chronicle Memory} {run : Nat}

theorem Reachable.served (reachable : chronicle.Reachable) (run : Nat) :
    Linked Happening.Serves none (course run chronicle.history) := by
  have replies := reachable.truthful.replies run
  -- What is left of the course, and what has happened just before.
  have rest {done happenings : List (Happening Memory)}
      (listed : course run chronicle.history = done ++ happenings) :
      Linked Happening.Serves done.getLast? happenings := by
    induction happenings generalizing done with
    | nil => trivial
    | cons happening happenings inductionHypothesis =>
        refine ⟨?_, ?_⟩
        · intro call token last
          obtain ⟨before, rfl⟩ := List.getLast?_eq_some_iff.1 last
          rw [List.append_assoc] at listed
          exact replies before call token happening happenings listed
        · have later := @inductionHypothesis (done ++ [happening]) (by simpa using listed)
          rwa [List.getLast?_concat] at later
  exact @rest [] _ rfl

theorem Reachable.replying (reachable : chronicle.Reachable) (run : Nat) :
    Linked Happening.RepliesTo none (course run chronicle.history) := by
  have accounts := reachable.holds.tracked run
  have served := reachable.served run
  generalize course run chronicle.history = happenings at accounts served
  generalize chronicle.pool.situation.standings run = standings at accounts
  generalize receiverOf chronicle.pool.situation.runs run = receiver? at accounts
  cases accounts with
  | unborn => trivial
  | born leads =>
      obtain ⟨count, path⟩ := leads
      exact ⟨trivial, path.replying trivial served.2⟩

/-- What shows of a boundary for a nested run is one of exchanges if the transcript of that run is. -/
theorem exchanges_inside (hidden : Registration Memory → Bool) (outer epoch : Nat)
    (registration : Registration Memory) (token : Token)
    (inner : Exchanges (Query.May id) none (chronicle.inner hidden outer epoch)) :
    Exchanges (Query.May id) none (chronicle.inside hidden outer registration epoch token) := by
  rw [inside]
  split
  · exact inner
  · refine .append ?_ inner
    cases registration with
    | calling | finishing => trivial
    | hopping source context =>
        have leaves := chronicle.leavesTo outer epoch
        rw [hop]
        generalize chronicle.taking outer epoch = taking at leaves ⊢
        generalize chronicle.innerRun? outer epoch = nested? at leaves
        generalize chronicle.insideTold outer epoch = told at leaves
        cases leaves with
        | waiting => trivial
        | refused | taken => exact ⟨⟨_, rfl, .other rfl rfl⟩, trivial⟩

theorem Reachable.exchanges (reachable : chronicle.Reachable)
    (hidden : Registration Memory → Bool) (run : Nat) :
    Exchanges (Query.May id) none (chronicle.transcript hidden run) := by
  induction left : chronicle.pool.host.runs.size - run using Nat.strongRecOn generalizing run with
  | ind left inductionHypothesis =>
      rw [transcript]
      refine (reachable.replying run).exchanges hidden none (by rintro _ _ _ _ ⟨⟩) ?_
      intro epoch registration token pending reached isNested
      refine exchanges_inside hidden run epoch registration token ?_
      rw [inner_eq reachable.holds hidden reached]
      cases found : chronicle.innerRun? run epoch with
      | none => trivial
      | some nested =>
          obtain ⟨later, bound⟩ := later_of_innerRun? reachable.holds reached found
          exact inductionHypothesis _ (by omega) nested rfl

theorem Reachable.exchanges_shows (reachable : chronicle.Reachable) {last : Happening Memory}
    {early part rest : List (Happening Memory)}
    (listed : course run chronicle.history = early ++ last :: (part ++ rest))
    (quiet : last.asked? (fun _ => false) = none)
    (isPassage : last.isPassage = false) :
    Exchanges (Query.May id) none (chronicle.shows run part) := by
  have replying := reachable.replying run
  rw [listed] at replying
  have shows : Exchanges (Query.May id) ((some last).bind (Happening.asked? fun _ => false))
      (chronicle.shows run part) :=
    (linked_append.1 replying.of_append).1.exchanges (fun _ => false) none
      (by rintro _ _ _ _ ⟨⟩; cases isPassage) ?_
  · rwa [Option.bind_some, quiet] at shows
  · intro epoch registration token pending member isNested
    refine exchanges_inside _ run epoch registration token ?_
    have reached : .reached epoch registration token pending ∈ course run chronicle.history := by
      rw [listed]
      exact List.mem_append_right _ (.tail _ (List.mem_append_left _ member))
    rw [inner_eq reachable.holds _ reached]
    cases chronicle.innerRun? run epoch with
    | none => trivial
    | some nested => exact reachable.exchanges _ nested

end Chronicle

section AskInstalled

/-- A thunk that is not determined: it answers whether settings are fixed. -/
def askInstalled (_unit : Unit) : Code Unit .value :=
  .ask .installedSettings fun (settings : Option Settings) =>
    Code.value (.datum (.bool settings.isSome))

def changeNothing (value : Value) : Code Unit .value := Code.value value

/-- A change above the thunk, so that a frame is pending when the thunk is called. -/
def Plan.askingInstalled : Plan Unit := .map (.delay askInstalled) changeNothing

end AskInstalled

end Trampoline
