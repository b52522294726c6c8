import Trampoline.Proofs.Happening

/-!
Where it shows what happens to a run.

`Focus.happenings` lists for each state what happens in the next move.  `Focus.Shows` is the same
table read from the other side: what states a happening shows in, and what is the case there.
-/

namespace Trampoline

variable {Memory : Type} {last form rest : Form} {run : Nat} {token : Token}
  {happening : Happening Memory} {happenings : Nat → List (Happening Memory)}

inductive Loop.IsFor (run : Nat) : {form : Form} → Loop Memory form → Prop where
  | intro (pending : Stack (Frame Memory)) (token : Token) : IsFor run ⟨.run run, pending, token⟩

def Caller.loop? {form rest : Form} : Caller Memory form rest → Option (Loop Memory rest)
  | .suspended loop _ | .delayed loop _ | .namingSuspended loop | .namingDelayed loop
  | .continuing loop | .mapping loop | .switching loop _ _ | .restoring loop _ => some loop
  | _ => none

def Caller.Waits (caller : Caller Memory form rest) (run : Nat) (token : Token) : Prop :=
  ∃ loop, caller.loop? = some loop ∧ loop.IsFor run ∧ loop.token = token

theorem Loop.mem_note {loop : Loop Memory form} (noted : (run, happening) ∈ loop.note happenings) :
    loop.IsFor run ∧ happening ∈ happenings run := by
  obtain ⟨purpose, pending, token⟩ := loop
  cases purpose with
  | step => cases noted
  | run other =>
      obtain ⟨_, member, same⟩ := List.mem_map.1 noted
      cases same
      exact ⟨.intro pending token, member⟩

theorem Caller.mem_note {caller : Caller Memory form rest}
    (noted : (run, happening) ∈ caller.note happenings) :
    (∃ token, caller.Waits run token) ∧ happening ∈ happenings run := by
  unfold Caller.note at noted
  split at noted
  all_goals first
    | (obtain ⟨isFor, member⟩ := Loop.mem_note noted
       exact ⟨⟨_, _, rfl, isFor, rfl⟩, member⟩)
    | cases noted

theorem Caller.Waits.isGuard {caller : Caller Memory form rest} (waits : caller.Waits run token) :
    caller.isGuard = true := by
  obtain ⟨loop, here, _, _⟩ := waits
  cases caller <;> first | rfl | cases here

/-- What happens to a run in the next move, and the state that shows it. -/
inductive Focus.Shows (host : Host Memory) (run : Nat) :
    Focus Memory last → Happening Memory → Prop where
  | looks {pending token plan callers} : Shows host run
      (.iterate ⟨.run run, pending, token⟩ plan callers)
      (.looked token (host.tokens.isCanceled token))
  | suspends {pending token thunk onPanic callers}
      (live : host.tokens.isCanceled token ≠ true) : Shows host run
      (.iterate ⟨.run run, pending, token⟩ (.suspendWith thunk onPanic) callers)
      (.called (.suspended thunk) token)
  | delays {pending token thunk onPanic callers}
      (live : host.tokens.isCanceled token ≠ true) : Shows host run
      (.iterate ⟨.run run, pending, token⟩ (.delayWith thunk onPanic) callers)
      (.called (.delayed thunk) token)
  | switches {pending token source modify restore callers}
      (live : host.tokens.isCanceled token ≠ true) : Shows host run
      (.iterate ⟨.run run, pending, token⟩ (.switch source modify restore) callers)
      (.called (.switching modify token) token)
  | reaches {pending token registration callers}
      (live : host.tokens.isCanceled token ≠ true) : Shows host run
      (.iterate ⟨.run run, pending, token⟩ (.async registration) callers)
      (.reached (host.epoch run + 1) registration token pending)
  | recalls {pending token kept callers}
      (live : host.tokens.isCanceled token ≠ true) : Shows host run
      (.iterate ⟨.run run, pending, token⟩ (.held kept) callers)
      (.recalled kept (host.held kept))
  | feeds {pending token result callers call}
      (taken : (Loop.frameFor pending result).1.bind (·.call? result token) = some call) :
      Shows host run (.feed ⟨.run run, pending, token⟩ result callers) (.called call token)
  | answers {form rest : Form} {caller : Caller Memory form rest} {callers answer token}
      (waits : caller.Waits run token) : Shows host run
      (.code (.done answer) (.push caller callers)) (.answered answer)
  | returns {epoch token callers answer} : Shows host run
      (.code (.done answer) (.push (.registering run epoch token) callers)) (.returned epoch)
  | detaches {epoch token callers answer} : Shows host run
      (.code (.done answer) (.push (.detaching run epoch token) callers)) (.returned epoch)
  | panics {form rest : Form} {caller : Caller Memory form rest} {callers payload token}
      (waits : caller.Waits run token) : Shows host run
      (.unwind payload (.push caller callers)) (.panicked (host.capture payload).1)
  | namesSuspended {pending token onPanic callers payload} : Shows host run
      (.unwind payload (.push (.suspended ⟨.run run, pending, token⟩ onPanic) callers))
      (.called (.naming onPanic (host.capture payload).1) token)
  | namesDelayed {pending token onPanic callers payload} : Shows host run
      (.unwind payload (.push (.delayed ⟨.run run, pending, token⟩ onPanic) callers))
      (.called (.naming onPanic (host.capture payload).1) token)
  | attempts {epoch outcome callers} : Shows host run
      (.complete ⟨run, epoch⟩ outcome callers) (.attempted epoch outcome callers.maker)
  | crosses {epoch outcome callers} (accepts : host.accepts ⟨run, epoch⟩ = true) : Shows host run
      (.complete ⟨run, epoch⟩ outcome callers) (.crossed epoch outcome)
  | tells {outcome callers} (untold : host.runs[run]?.any (·.outcome.isNone) = true) :
      Shows host run (.finish run outcome callers) (.told outcome)

namespace Focus

variable {host : Host Memory} {focus : Focus Memory last}

theorem shows_iterate {loop : Loop Memory form} {plan : Plan Memory}
    {callers : Callers Memory last form}
    (member : (run, happening) ∈ Focus.happenings host (.iterate loop plan callers)) :
    Shows host run (.iterate loop plan callers) happening := by
  obtain ⟨⟨pending, token⟩, noted⟩ := Loop.mem_note member
  have looked : Shows host run (.iterate ⟨.run run, pending, token⟩ plan callers)
    (.looked token (host.tokens.isCanceled token)) := .looks
  split at noted
  · rename_i canceled
    cases List.mem_singleton.1 noted
    rwa [canceled] at looked
  · rename_i live
    rcases List.mem_cons.1 noted with rfl | inner
    · rwa [Bool.eq_false_iff.2 live] at looked
    · cases plan with
      | suspendWith | delayWith | switch | async | held =>
          cases List.mem_singleton.1 inner
          constructor
          exact live
      | _ => cases inner

theorem shows_code {code : Code Memory form} {callers : Callers Memory last form}
    (member : (run, happening) ∈ Focus.happenings host (.code code callers)) :
    Shows host run (.code code callers) happening := by
  unfold Focus.happenings at member
  split at member <;> try contradiction
  rename_i same
  cases same
  unfold Caller.answerHappenings at member
  split at member
  · cases List.mem_singleton.1 member
    exact .returns
  · cases List.mem_singleton.1 member
    exact .detaches
  · obtain ⟨⟨token, waits⟩, noted⟩ := Caller.mem_note member
    cases List.mem_singleton.1 noted
    exact .answers waits

theorem shows_unwind {payload : Payload} {callers : Callers Memory last form}
    (member : (run, happening) ∈ Focus.happenings host (.unwind payload callers)) :
    Shows host run (.unwind payload callers) happening := by
  cases callers with
  | bottom => cases member
  | push caller callers =>
      rw [Focus.happenings] at member
      unfold Caller.panicHappenings at member
      split at member
      · obtain ⟨⟨pending, token⟩, noted⟩ := Loop.mem_note member
        rcases List.mem_cons.1 noted with rfl | named
        · exact .panics ⟨_, rfl, .intro .., rfl⟩
        · cases List.mem_singleton.1 named
          exact .namesSuspended
      · obtain ⟨⟨pending, token⟩, noted⟩ := Loop.mem_note member
        rcases List.mem_cons.1 noted with rfl | named
        · exact .panics ⟨_, rfl, .intro .., rfl⟩
        · cases List.mem_singleton.1 named
          exact .namesDelayed
      · obtain ⟨⟨token, waits⟩, noted⟩ := Caller.mem_note member
        cases List.mem_singleton.1 noted
        exact .panics waits

/-- What happens shows in the state before. -/
theorem shows_of_mem (member : (run, happening) ∈ focus.happenings host) :
    focus.Shows host run happening := by
  cases focus with
  | iterate => exact shows_iterate member
  | code => exact shows_code member
  | unwind => exact shows_unwind member
  | feed loop result callers =>
      obtain ⟨⟨pending, token⟩, noted⟩ := Loop.mem_note member
      obtain ⟨call, taken, rfl⟩ := List.mem_map.1 noted
      exact .feeds (Option.mem_toList.1 taken)
  | complete completer outcome callers =>
      rcases List.mem_cons.1 member with same | crossed
      · cases same
        exact .attempts
      · split at crossed
        · rename_i accepts
          cases List.mem_singleton.1 crossed
          exact .crosses accepts
        · cases crossed
  | finish other outcome callers =>
      rw [Focus.happenings] at member
      split at member
      · rename_i untold
        cases List.mem_singleton.1 member
        exact .tells untold
      · cases member
  | halted ending => cases member

namespace Shows

theorem looked {found : Bool} (shows : focus.Shows host run (.looked token found)) :
    found = host.tokens.isCanceled token := by
  cases shows
  rfl

theorem attempted {epoch : Nat} {outcome : Outcome Value} {maker : Maker}
    (shows : focus.Shows host run (.attempted epoch outcome maker)) :
    ∃ callers, focus = .complete ⟨run, epoch⟩ outcome callers ∧ maker = callers.maker := by
  cases shows
  exact ⟨_, rfl, rfl⟩

theorem crossed {epoch : Nat} {outcome : Outcome Value}
    (shows : focus.Shows host run (.crossed epoch outcome)) :
    ∃ callers, focus = .complete ⟨run, epoch⟩ outcome callers ∧
      host.accepts ⟨run, epoch⟩ = true := by
  cases shows with
  | crosses accepts => exact ⟨_, rfl, accepts⟩

theorem told {outcome : Outcome Value} (shows : focus.Shows host run (.told outcome)) :
    ∃ callers, focus = .finish run outcome callers ∧
      host.runs[run]?.any (·.outcome.isNone) = true := by
  cases shows with
  | tells untold => exact ⟨_, rfl, untold⟩

end Shows

end Focus

theorem mem_startHappenings {runs : Nat} {after : Machine Memory last}
    {noted : Nat × Happening Memory} (member : noted ∈ Machine.startHappenings runs after) :
    ∃ plan pending token receiver, noted = (runs, .started plan pending token receiver) := by
  unfold Machine.startHappenings at member
  split at member
  · exact ⟨_, _, _, _, List.mem_singleton.1 member⟩
  · cases member

/-! ### What a machine goes on with -/

namespace Machine

variable {machine : Machine Memory last}

/-- Only that a run was started does not show in the state before. -/
theorem shows_of_mem (member : (run, happening) ∈ machine.happenings) :
    machine.focus.Shows machine.host run happening ∨
      ∃ plan pending token receiver, happening = .started plan pending token receiver := by
  rcases List.mem_append.1 member with shown | begun
  · exact .inl (Focus.shows_of_mem shown)
  · obtain ⟨plan, pending, token, receiver, same⟩ := mem_startHappenings begun
    exact .inr ⟨plan, pending, token, receiver, congrArg Prod.snd same⟩

theorem shows_of_old (member : (run, happening) ∈ machine.happenings)
    (old : ∀ plan pending token receiver, happening ≠ .started plan pending token receiver) :
    machine.focus.Shows machine.host run happening := by
  rcases shows_of_mem member with shown | ⟨_, _, _, _, begun⟩
  · exact shown
  · exact absurd begun (old _ _ _ _)

theorem next_of_called {call : Call Memory}
    (called : machine.focus.Shows machine.host run (.called call token)) :
    ∃ (rest : Form) (caller : Caller Memory call.form rest) (callers : Callers Memory last rest),
      machine.next.focus = .code call.code (.push caller callers) ∧ caller.Waits run token := by
  obtain ⟨focus, host⟩ := machine
  cases called with
  | suspends live | delays live | switches live =>
      simp only [next, Loop.iterate, if_neg live]
      exact ⟨_, _, _, rfl, _, rfl, .intro .., rfl⟩
  | @feeds pending _ result _ _ taken =>
      obtain ⟨frame, found, called⟩ := Option.bind_eq_some_iff.1 taken
      rcases popped : Loop.frameFor pending result with ⟨frame?, below⟩
      obtain rfl : frame? = some frame := by rw [← found, popped]
      simp only [next, Loop.feed, popped]
      cases frame <;> cases result <;> cases called <;>
        exact ⟨_, _, _, rfl, _, rfl, .intro .., rfl⟩
  | namesSuspended | namesDelayed => exact ⟨_, _, _, rfl, _, rfl, .intro .., rfl⟩

theorem next_of_reached {epoch : Nat} {registration : Registration Memory}
    {pending : Stack (Frame Memory)}
    (reached : machine.focus.Shows machine.host run (.reached epoch registration token pending)) :
    ∃ callers between, machine.next = registration.call token ⟨run, epoch⟩
      (.push (.registering run epoch token) callers) between := by
  obtain ⟨focus, host⟩ := machine
  cases reached with
  | @reaches _ _ _ callers live =>
      rw [← host.epoch_arm run token token host.thread.id pending]
      exact ⟨callers, _, if_neg live⟩

end Machine

end Trampoline
