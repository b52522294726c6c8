import Mathlib
import Trampoline.Proofs.Iteration
import Trampoline.Proofs.Later

/-!
Cancellation is prompt and final.

A run that finds its token canceled tells that and does nothing else.  It tells cancellation only if
it has found its token canceled itself, or a nested run that it waits for has.  Whenever the active
token is canceled, the iteration that is under way comes to its end, and the next one stops.
-/

namespace Trampoline

variable {Memory : Type}

namespace Standing

variable {standing goal : Standing Memory} {happenings : List (Happening Memory)} {count : Nat}

theorem Path.canceled_cases (path : Path count standing happenings goal)
    (told : .told .canceled ∈ happenings) :
    standing = .ending .canceled ∨ (∃ token, .looked token true ∈ happenings) ∨
      ∃ epoch, .crossed epoch .canceled ∈ happenings := by
  induction path with
  | done => cases told
  | @step count standing next goal happenings rest step path inductionHypothesis =>
      rcases List.mem_append.1 told with here | later
      · cases step with
        | tell =>
            cases List.mem_singleton.1 here
            exact .inl rfl
        | _ => simp at here
      · rcases inductionHypothesis later with ending | ⟨token, looked⟩ | ⟨epoch, crossed⟩
        · cases step with
          | stop => exact .inr (.inl ⟨_, .head _⟩)
          | @conclude result => cases result <;> cases ending
          | @cross pending token epoch outcome =>
              cases outcome <;> cases ending
              exact .inr (.inr ⟨epoch, .head _⟩)
          | _ => cases ending
        · exact .inr (.inl ⟨token, List.mem_append_right _ looked⟩)
        · exact .inr (.inr ⟨epoch, List.mem_append_right _ crossed⟩)

end Standing

namespace Accounts

variable {receiver? : Option (Receiver Memory)} {done : List (Happening Memory)}
  {standings : List (Standing Memory)}

theorem stops (accounts : Accounts receiver? done standings) {token : Token}
    {before rest : List (Happening Memory)} (listed : done = before ++ .looked token true :: rest) :
    (rest = [] ∧ standings = [.ending .canceled]) ∨
      (rest = [.told .canceled] ∧ standings = [.ended .canceled]) := by
  cases accounts with
  | unborn => simp at listed
  | born leads =>
      obtain ⟨count, path⟩ := leads
      cases before with
      | nil => cases listed
      | cons start before =>
          cases listed
          rcases path.stops rfl with ⟨rfl, rfl⟩ | ⟨rfl, rfl⟩
          · exact .inl ⟨rfl, rfl⟩
          · exact .inr ⟨rfl, rfl⟩

theorem canceled_cases (accounts : Accounts receiver? done standings)
    (told : .told .canceled ∈ done) :
    (∃ token, .looked token true ∈ done) ∨ ∃ epoch, .crossed epoch .canceled ∈ done := by
  cases accounts with
  | unborn => cases told
  | born leads =>
      obtain ⟨count, path⟩ := leads
      rcases List.mem_cons.1 told with same | later
      · cases same
      · rcases path.canceled_cases later with ending | ⟨token, looked⟩ | ⟨epoch, crossed⟩
        · cases ending
        · exact .inl ⟨token, .tail _ looked⟩
        · exact .inr ⟨epoch, .tail _ crossed⟩

end Accounts

/-- A run finds out that it is canceled: at the start of an iteration of its own, or from a nested
run that has found out and whose outcome it goes on with. -/
inductive Chronicle.Notices (chronicle : Chronicle Memory) : Nat → Prop where
  | itself {run token} : .looked token true ∈ course run chronicle.history → Notices chronicle run
  | nested {run nested epoch} :
      receiverOf chronicle.pool.host.runs nested = some (.forward ⟨run, epoch⟩) →
      .crossed epoch .canceled ∈ course run chronicle.history → Notices chronicle nested →
        Notices chronicle run

namespace Chronicle.Reachable

variable {chronicle : Chronicle Memory} (reachable : chronicle.Reachable) {run : Nat}
  {standing : Standing Memory} {token : Token}
include reachable

theorem ended_or_resumable (stands : chronicle.pool.situation.standings run = [standing])
    (rests : chronicle.pool.rests run = true) :
    (∃ outcome, standing = .ended outcome) ∨
      chronicle.Resumable run ∧ ∃ epoch pending token, standing = .suspended epoch pending token := by
  have holds := reachable.holds
  obtain ⟨entry, found⟩ := holds.tracked.entry_of_singleton stands
  rcases Chronicle.delivered_or_resumable holds.tracked holds.ledger rests found with
    delivered | resumable
  · have accounts := holds.tracked run
    rw [stands] at accounts
    have told : tellings run chronicle.history = standing.outcome?.toList := accounts.tellings_eq
    have once := delivered.once
    cases ended : standing.outcome? with
    | none => simp [told, ended] at once
    | some outcome => exact .inl ⟨outcome, Standing.eq_ended ended⟩
  · obtain ⟨reach, _, waits⟩ := resumable.waits
    have here : .suspended reach.epoch reach.pending.toList reach.token ∈
        chronicle.pool.situation.standings run :=
      mem_standings_of_boundary waits rfl
    rw [stands, List.mem_singleton] at here
    exact .inr ⟨resumable, _, _, _, here.symm⟩

theorem stops {before rest : List (Happening Memory)}
    (listed : course run chronicle.history = before ++ .looked token true :: rest) :
    (rest = [] ∨ rest = [.told .canceled]) ∧
      (chronicle.pool.rests run = true → rest = [.told .canceled]) := by
  rcases (reachable.holds.tracked run).stops listed with ⟨rfl, stands⟩ | ⟨rfl, stands⟩
  · refine ⟨.inl rfl, fun rests => ?_⟩
    rcases reachable.ended_or_resumable stands rests with ⟨_, ended⟩ | ⟨_, _, _, _, suspended⟩
    · cases ended
    · cases suspended
  · exact ⟨.inr rfl, fun _ => rfl⟩

theorem started_of_forward {nested epoch : Nat}
    (forwards : receiverOf chronicle.pool.host.runs nested = some (.forward ⟨run, epoch⟩)) :
    ∃ registration saved plan pending token,
      .reached epoch registration token saved ∈ course run chronicle.history ∧
      run < nested ∧ nested < chronicle.pool.host.runs.size ∧
      (course nested chronicle.history).head? =
        some (.started plan pending token (.forward ⟨run, epoch⟩)) := by
  have holds := reachable.holds
  have found := nestedRun?_of_receiverOf (fun _ _ => holds.kept.unique _ _ _) forwards
  obtain ⟨plan, pending, token, rest, listed, started⟩ :=
    holds.tracked.started_of_receiver forwards
  obtain ⟨later, registration, current, saved, reached, due⟩ := holds.kept.started _ _ _ _ _ started
  obtain rfl : token = current := by
    cases registration with
    | calling => cases due
    | hopping | finishing =>
        cases List.mem_singleton.1 due
        rfl
  refine ⟨registration, saved, plan, pending, token, reached, later,
    holds.tracked.lt_size_of_mem started, ?_⟩
  rw [listed]
  rfl

theorem notices (told : .told .canceled ∈ course run chronicle.history) :
    chronicle.Notices run := by
  induction left : chronicle.pool.host.runs.size - run using Nat.strongRecOn generalizing run with
  | ind left inductionHypothesis =>
      rcases (reachable.holds.tracked run).canceled_cases told with ⟨token, looked⟩ | ⟨epoch, crossed⟩
      · exact .itself looked
      · obtain ⟨nested, forwards, nestedTold⟩ := reachable.forwarded crossed
        obtain ⟨_, _, _, _, _, _, later, bound, _⟩ := reachable.started_of_forward forwards
        refine .nested forwards crossed (inductionHypothesis _ ?_ nestedTold rfl)
        omega

/-- Nothing of a run happens under another token as long as none is asked for. -/
theorem sameToken {plan : Plan Memory} {pending : Stack (Frame Memory)}
    {receiver : Receiver Memory}
    (started : (course run chronicle.history).head? = some (.started plan pending token receiver))
    (asksNone : ∀ call ∈ calls (course run chronicle.history), call.form ≠ .token) :
    (∀ other found, .looked other found ∈ course run chronicle.history → other = token) ∧
      ∀ epoch registration other saved,
        .reached epoch registration other saved ∈ course run chronicle.history → other = token := by
  obtain ⟨happenings, standing, listed, ⟨count, path⟩, _⟩ :=
    reachable.holds.tracked.leads_of_started started
  rw [listed] at asksNone ⊢
  have same := path.keepsToken rfl rfl asksNone
  constructor
  · intro other found member
    rcases List.mem_cons.1 member with start | later
    · cases start
    · exact same.1 other found later
  · intro epoch registration other saved member
    rcases List.mem_cons.1 member with start | later
    · cases start
    · exact same.2 epoch registration other saved later

/-- Runs that are nested in an uncancelable run are uncancelable as long as no token is asked for. -/
theorem looked_notMem {inner : Nat} (nests : chronicle.Nests run inner) {plan : Plan Memory}
    {pending : Stack (Frame Memory)} {receiver : Receiver Memory}
    (started : (course run chronicle.history).head? =
      some (.started plan pending .uncancelable receiver))
    (asksNone : ∀ inner, chronicle.Nests run inner →
      ∀ call ∈ calls (course inner chronicle.history), call.form ≠ .token) (token : Token) :
    .looked token true ∉ course inner chronicle.history := by
  induction nests generalizing plan pending receiver with
  | self =>
      intro looked
      obtain rfl := (reachable.sameToken started (asksNone _ .self)).1 _ _ looked
      obtain ⟨record, recorded, same⟩ := mem_of_course looked
      exact reachable.honest.looked record recorded same
  | @inner run nested other epoch forwards _ inductionHypothesis =>
      obtain ⟨registration, saved, source, frames, token, reached, _, _, begun⟩ :=
        reachable.started_of_forward forwards
      obtain rfl := (reachable.sameToken started (asksNone _ .self)).2 _ _ _ _ reached
      exact inductionHypothesis begun fun inner nests => asksNone inner (.inner forwards nests)

end Chronicle.Reachable

/-- What a run does from where it stands with a canceled token: the iteration that is under way comes
to its end, and if the next one has the same token it stops there. -/
structure Chronicle.WindsUp (later : Chronicle Memory) (run : Nat) (standing : Standing Memory)
    (token : Token) (wrap rest : List (Happening Memory)) : Prop where
  iteration : standing.WindsUp wrap rest
  stops : ∀ found more, rest = .looked token found :: more →
    found = true ∧ (more = [] ∨ more = [.told .canceled])
  rests : later.pool.rests run = true →
    (rest = [] ∧ ((∃ outcome, .told outcome ∈ wrap) ∨ later.Resumable run)) ∨
      rest = [.looked token true, .told .canceled] ∨
      ∃ other found more, other ≠ token ∧ rest = .looked other found :: more

namespace Chronicle.Resumes

variable {chronicle later : Chronicle Memory} {run : Nat} {standing goal : Standing Memory}
  {happenings : List (Happening Memory)}

theorem windsUp (resumes : chronicle.Resumes later run standing happenings goal) :
    ∃ wrap rest, happenings = wrap ++ rest ∧ standing.WindsUp wrap rest := by
  rcases resumes.leads with ⟨count, path⟩ | ⟨rfl, _⟩
  · exact path.windsUp
  · exact (Standing.Path.done : Standing.Path 0 standing [] standing).windsUp

theorem told {outcome : Outcome Value}
    (resumes : chronicle.Resumes later run standing happenings (.ended outcome)) {token : Token}
    (active : standing.token? = some token) : .told outcome ∈ happenings := by
  rcases resumes.leads with ⟨count, path⟩ | ⟨_, _, silent⟩
  · have running : standing.outcome? = none := by
      cases standing <;> first | rfl | cases active
    have told : outcome ∈ happenings.filterMap Happening.told? := by
      rw [path.tellings running]
      exact .head _
    obtain ⟨happening, member, same⟩ := List.mem_filterMap.1 told
    cases happening <;> cases same
    exact member
  · obtain ⟨_, rfl⟩ := silent.of_ended
    cases active

end Chronicle.Resumes

theorem Chronicle.Reachable.windsUp {chronicle : Chronicle Memory} (reachable : chronicle.Reachable)
    {run : Nat} {standing : Standing Memory} {token : Token} (later : List Nat)
    (stands : chronicle.pool.situation.standings run = [standing])
    (active : standing.token? = some token)
    (canceled : chronicle.pool.host.tokens.isCanceled token = true) :
    ∃ wrap rest, course run (chronicle.after later).history =
        course run chronicle.history ++ wrap ++ rest ∧
      (chronicle.after later).WindsUp run standing token wrap rest := by
  obtain ⟨happenings, goal, resumes⟩ := reachable.resumes later stands
  have stopped {before more : List (Happening Memory)}
      (listed : happenings = before ++ .looked token true :: more) :
      (more = [] ∨ more = [.told .canceled]) ∧
        ((chronicle.after later).pool.rests run = true → more = [.told .canceled]) := by
    have whole := resumes.course
    rw [listed, ← List.append_assoc] at whole
    exact (reachable.after later).stops whole
  obtain ⟨wrap, rest, rfl, winds⟩ := resumes.windsUp
  refine ⟨wrap, rest, by rw [resumes.course, List.append_assoc], winds, ?_, fun rests => ?_⟩
  · rintro found more rfl
    obtain rfl : found = true := resumes.looks token found (by simp) canceled
    exact ⟨rfl, (stopped rfl).1⟩
  · rcases winds.next with rfl | ⟨other, found, more, rfl⟩
    · refine .inl ⟨rfl, ?_⟩
      rw [List.append_nil] at resumes
      rcases (reachable.after later).ended_or_resumable resumes.stands rests with
        ⟨outcome, rfl⟩ | ⟨resumable, _⟩
      · exact .inl ⟨outcome, resumes.told active⟩
      · exact .inr resumable
    · by_cases same : other = token
      · subst same
        obtain rfl : found = true := resumes.looks other found (by simp) canceled
        rw [(stopped rfl).2 rests]
        exact .inr (.inl rfl)
      · exact .inr (.inr ⟨other, found, more, same, rfl⟩)

theorem Chronicle.Notices.looked {chronicle : Chronicle Memory} {run : Nat}
    (notices : chronicle.Notices run) :
    ∃ inner token, chronicle.Nests run inner ∧ .looked token true ∈ course inner chronicle.history := by
  induction notices with
  | itself looked => exact ⟨_, _, .self, looked⟩
  | nested forwards _ _ inductionHypothesis =>
      obtain ⟨inner, token, nests, looked⟩ := inductionHypothesis
      exact ⟨inner, token, .inner forwards nests, looked⟩

/-- Cancellation is prompt and final: a run that finds its token canceled tells that and nothing else
happens to it; it tells cancellation only if it, or a nested run that it waits for, has found out,
so that a run never does whose program switches no tokens; and from any moment at which its token
is canceled it winds up. -/
theorem cancellation_prompt_and_final (memory : Memory)
    (codes : List (Option String × Code Memory .unit)) (schedule later : List Nat) (run : Nat) :
    let chronicle := (Pool.opening memory codes).chronicle schedule
    (∀ before token rest, course run chronicle.history = before ++ .looked token true :: rest →
      (rest = [] ∨ rest = [.told .canceled]) ∧
        (chronicle.pool.rests run = true → rest = [.told .canceled])) ∧
      (.told .canceled ∈ course run chronicle.history → chronicle.Notices run) ∧
      (∀ plan pending receiver, (course run chronicle.history).head? =
          some (.started plan pending .uncancelable receiver) →
        (∀ inner, chronicle.Nests run inner →
          ∀ call ∈ calls (course inner chronicle.history), call.form ≠ .token) →
        .told .canceled ∉ course run chronicle.history) ∧
      ∀ standing token, chronicle.pool.situation.standings run = [standing] →
        standing.token? = some token → chronicle.pool.host.tokens.isCanceled token = true →
          ∃ wrap rest, course run (chronicle.after later).history =
              course run chronicle.history ++ wrap ++ rest ∧
            (chronicle.after later).WindsUp run standing token wrap rest := by
  intro chronicle
  have reachable : chronicle.Reachable := ⟨memory, codes, schedule, rfl⟩
  refine ⟨fun _ _ _ => reachable.stops, reachable.notices, ?_,
    fun _ _ => reachable.windsUp later⟩
  intro plan pending receiver started asksNone told
  obtain ⟨inner, token, nests, looked⟩ := (reachable.notices told).looked
  exact reachable.looked_notMem nests started asksNone token looked

section CancelsItself

def answerNull (_value : Value) : Code Unit .value := Code.value (.datum .null)

def Plan.cancelsItself (token : Token) : Plan Unit :=
  .map (.delay fun _ => .ask (.cancel token none) fun _ => Code.value (.datum .null)) answerNull

def runCancelsItself : Code Unit .unit :=
  .ask .newToken fun (token : Token) =>
    .run (.cancelsItself token) token (fun _ => Code.unit) fun _ => Code.unit

def Chronicle.cancelsItself : Chronicle Unit :=
  (Pool.opening () [(none, runCancelsItself)]).chronicle (List.replicate 5 0)

theorem standings_cancelsItself :
    Chronicle.cancelsItself.pool.situation.standings 0 =
      [.calling (.delayed Code.panicked) [.map answerNull] (.tracked 0)] := by
  cbv

theorem isCanceled_cancelsItself :
    Chronicle.cancelsItself.pool.host.tokens.isCanceled (.tracked 0) = true := by
  cbv

theorem course_cancelsItself :
    course 0 (Chronicle.cancelsItself.after (List.replicate 5 0)).history =
      course 0 Chronicle.cancelsItself.history ++
        [.answered (.value (.datum .null)),
          .called (.mapping answerNull (.datum .null)) (.tracked 0),
          .answered (.value (.datum .null)), .looked (.tracked 0) true, .told .canceled] := by
  cbv

/-- A delay that cancels its own token still has its value changed, in the same iteration. -/
theorem cancellation_prompt_and_final_delayed :
    let chronicle := Chronicle.cancelsItself
    let later := chronicle.after (List.replicate 5 0)
    course 0 later.history = course 0 chronicle.history ++
        [.answered (.value (.datum .null)),
          .called (.mapping answerNull (.datum .null)) (.tracked 0),
          .answered (.value (.datum .null)), .looked (.tracked 0) true, .told .canceled] ∧
      ∃ wrap rest, course 0 later.history = course 0 chronicle.history ++ wrap ++ rest ∧
        later.WindsUp 0 (.calling (.delayed Code.panicked) [.map answerNull] (.tracked 0))
          (.tracked 0) wrap rest := by
  intro chronicle later
  have prompt := cancellation_prompt_and_final () [(none, runCancelsItself)] (List.replicate 5 0)
    (List.replicate 5 0) 0
  exact ⟨course_cancelsItself,
    prompt.2.2.2 _ _ standings_cancelsItself rfl isCanceled_cancelsItself⟩

end CancelsItself

end Trampoline
