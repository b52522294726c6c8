import Trampoline.Proofs.Capturing
import Trampoline.Proofs.Completion
import Trampoline.Proofs.Modesty
import Trampoline.Proofs.Placement

/-!
How deep the loops of runs nest on a thread.

Sequencing, recovery and changes of token cost frames, and a boundary that is completed by its own
registration is taken up by the loop that has reached it.  Only a hop starts a run inside a
registration: as long as the source runs on the immediate context, the loop of the hop stays open.
So the rank of a loop, how deep its hops may still nest, goes down by one with each loop that is
open below it, and a modest plan never has more loops open than its depth and one more.  There is no
bound for all plans, since each hop in the source of another does cost a loop.
-/

namespace Trampoline

variable {Memory : Type}

def ReachedModestly (history : List (Record Memory)) (run epoch rank : Nat) : Prop :=
  ∃ reach ∈ reaches (recordsOf run history), reach.epoch = epoch ∧ reach.pending.Modest rank

section Invariant

variable (history : List (Record Memory)) (runs : Array (Run Memory)) (depth : Nat)

/-- The callers of a loop of a run, whose hops may nest so many levels deep. -/
inductive Callers.Hold : Nat → Nat → Callers Memory .unit .unit → Prop
  | root {run receive next} (receiver : receiverOf runs run = some (.code receive))
      (receives : ∀ outcome, (receive outcome).Modest depth none)
      (nexts : (next ()).Modest depth none) : Hold depth run (.push (.code next) .bottom)
  | nested {rank run outer epoch token callers}
      (receiver : receiverOf runs run = some (.forward ⟨outer, epoch⟩))
      (reached : ReachedModestly history outer epoch (rank + 1))
      (below : Hold (rank + 1) outer callers) :
      Hold rank run (.push (.registering outer epoch token) callers)

inductive Callers.Serve :
    Nat → Option Completer → {form : Form} → Callers Memory .unit form → Prop
  | bottom : Serve depth none .bottom
  | code {rank own form} {next : Unit → Code Memory form} {callers}
      (nexts : ∀ input, (next input).Modest rank own) (below : Serve rank own callers) :
      Serve rank own (.push (.code next) callers)
  | guarding {rank own form} {next : Except Panic Value → Code Memory form} {callers}
      (nexts : ∀ caught, (next caught).Modest rank own) (below : Serve rank own callers) :
      Serve rank own (.push (.guarding next) callers)
  | joining {rank own form outer} {next : Option Value → Code Memory form} {callers}
      (nexts : ∀ value, (next value).Modest rank own) (below : Serve rank own callers) :
      Serve rank none (.push (.joining outer next) callers)
  | spawning {rank own outer callers} (below : Serve rank own callers) :
      Serve rank none (.push (.spawning outer) callers)
  | suspended {rank run pending token onPanic callers}
      (names : ∀ panic, (onPanic panic).Modest rank none)
      (frames : pending.Modest rank) (below : callers.Hold history runs depth rank run) :
      Serve rank none (.push (.suspended ⟨.run run, pending, token⟩ onPanic) callers)
  | delayed {rank run pending token onPanic callers}
      (names : ∀ panic, (onPanic panic).Modest rank none)
      (frames : pending.Modest rank) (below : callers.Hold history runs depth rank run) :
      Serve rank none (.push (.delayed ⟨.run run, pending, token⟩ onPanic) callers)
  | namingSuspended {rank run pending token callers}
      (frames : pending.Modest rank) (below : callers.Hold history runs depth rank run) :
      Serve rank none (.push (.namingSuspended ⟨.run run, pending, token⟩) callers)
  | namingDelayed {rank run pending token callers}
      (frames : pending.Modest rank) (below : callers.Hold history runs depth rank run) :
      Serve rank none (.push (.namingDelayed ⟨.run run, pending, token⟩) callers)
  | continuing {rank run pending token callers}
      (frames : pending.Modest rank) (below : callers.Hold history runs depth rank run) :
      Serve rank none (.push (.continuing ⟨.run run, pending, token⟩) callers)
  | mapping {rank run pending token callers}
      (frames : pending.Modest rank) (below : callers.Hold history runs depth rank run) :
      Serve rank none (.push (.mapping ⟨.run run, pending, token⟩) callers)
  | switching {rank run pending token source restore callers} (first : source.Modest rank)
      (restores : ∀ back ∈ restore, ∀ result old token, (back result old token).Modest rank none)
      (frames : pending.Modest rank) (below : callers.Hold history runs depth rank run) :
      Serve rank none (.push (.switching ⟨.run run, pending, token⟩ source restore) callers)
  | restoring {rank run pending token result callers}
      (frames : pending.Modest rank) (below : callers.Hold history runs depth rank run) :
      Serve rank none (.push (.restoring ⟨.run run, pending, token⟩ result) callers)
  | registering {rank run epoch token callers} (reached : ReachedModestly history run epoch rank)
      (below : callers.Hold history runs depth rank run) :
      Serve rank (some ⟨run, epoch⟩) (.push (.registering run epoch token) callers)
  | detaching {rank run epoch token callers} (reached : ReachedModestly history run epoch rank)
      (below : callers.Hold history runs depth rank run) :
      Serve rank (some ⟨run, epoch⟩) (.push (.detaching run epoch token) callers)
  | telling {rank run callers} (below : callers.Hold history runs depth rank run) :
      Serve rank none (.push .telling callers)

/-- What a thread that runs a modest plan does: a loop goes on with modest plans and frames, modest
code runs, or the boundary of a registration that is open on the thread is completed. -/
inductive Focus.Keeps : Focus Memory .unit → Prop
  | code {rank own form} {code : Code Memory form} {callers} (modest : code.Modest rank own)
      (below : callers.Serve history runs depth rank own) : Keeps (.code code callers)
  | iterate {rank run pending token plan callers} (modest : plan.Modest rank)
      (frames : pending.Modest rank) (below : callers.Hold history runs depth rank run) :
      Keeps (.iterate ⟨.run run, pending, token⟩ plan callers)
  | feed {rank run pending token result callers}
      (frames : pending.Modest rank) (below : callers.Hold history runs depth rank run) :
      Keeps (.feed ⟨.run run, pending, token⟩ result callers)
  | finish {rank run outcome callers} (below : callers.Hold history runs depth rank run) :
      Keeps (.finish run outcome callers)
  | complete {rank own completer outcome callers}
      (opened : ∀ thread, ∃ token,
        Opening.mk completer.run completer.epoch token thread ∈ callers.openings thread)
      (below : callers.Serve history runs depth rank own) :
      Keeps (.complete completer outcome callers)
  | unwind {rank own form payload} {callers : Callers Memory .unit form}
      (below : callers.Serve history runs depth rank own) : Keeps (.unwind payload callers)
  | halted {ending} : Keeps (.halted ending)

end Invariant

section Bound

variable {history : List (Record Memory)} {runs : Array (Run Memory)} {depth rank run : Nat}

/-- With each loop that is open there is one level less to go. -/
theorem Callers.Hold.activations_eq {callers : Callers Memory .unit .unit}
    (holds : callers.Hold history runs depth rank run) : callers.activations + rank = depth := by
  induction holds with
  | root => simp [activations, Caller.activations, Caller.isRemote]
  | nested _ _ _ inductionHypothesis =>
      simp only [activations, Caller.activations, Caller.isRemote, Bool.false_eq_true, if_false]
      omega

theorem Callers.Serve.activations_le {form : Form} {callers : Callers Memory .unit form}
    {own : Option Completer} (serves : callers.Serve history runs depth rank own) :
    callers.activations + rank ≤ depth + 1 := by
  induction serves with
  | bottom => simp [activations]
  | code _ _ inductionHypothesis | guarding _ _ inductionHypothesis =>
      simpa [activations, Caller.activations, Caller.isRemote] using inductionHypothesis
  | joining _ _ inductionHypothesis | spawning _ inductionHypothesis =>
      simp only [activations, Caller.isRemote, if_true]
      omega
  | suspended _ _ below | delayed _ _ below | namingSuspended _ below | namingDelayed _ below
  | continuing _ below | mapping _ below | switching _ _ _ below | restoring _ below
  | registering _ below | detaching _ below | telling below =>
      have same := below.activations_eq
      simp only [activations, Caller.activations, Caller.isRemote, Loop.activations,
        Bool.false_eq_true, if_false]
      omega

theorem Focus.Keeps.activations_le {focus : Focus Memory .unit}
    (keeps : focus.Keeps history runs depth) : focus.activations ≤ depth + 1 := by
  cases keeps with
  | code _ below | complete _ below | unwind below =>
      exact Nat.le_trans (Nat.le_add_right _ _) below.activations_le
  | iterate _ _ below | feed _ below | finish below =>
      have same := below.activations_eq
      simp only [activations, Loop.activations]
      omega
  | halted => exact Nat.zero_le _

end Bound

section Later

variable {history : List (Record Memory)} {runs after : Array (Run Memory)} {depth rank run : Nat}

theorem ReachedModestly.append {epoch : Nat} (reached : ReachedModestly history run epoch rank)
    (more : List (Record Memory)) : ReachedModestly (history ++ more) run epoch rank := by
  obtain ⟨reach, member, rest⟩ := reached
  refine ⟨reach, ?_, rest⟩
  rw [recordsOf_append, reaches_append]
  exact List.mem_append_left _ member

variable (more : List (Record Memory)) (keeps : KeepsReceivers runs after)
include keeps

theorem Callers.Hold.later {callers : Callers Memory .unit .unit}
    (holds : callers.Hold history runs depth rank run) :
    callers.Hold (history ++ more) after depth rank run := by
  induction holds with
  | root receiver receives nexts => exact .root (keeps _ _ receiver) receives nexts
  | nested receiver reached _ inductionHypothesis =>
      exact .nested (keeps _ _ receiver) (reached.append more) inductionHypothesis

theorem Callers.Serve.later {form : Form} {callers : Callers Memory .unit form}
    {own : Option Completer} (serves : callers.Serve history runs depth rank own) :
    callers.Serve (history ++ more) after depth rank own := by
  induction serves with
  | bottom => exact .bottom
  | code nexts _ inductionHypothesis => exact .code nexts inductionHypothesis
  | guarding nexts _ inductionHypothesis => exact .guarding nexts inductionHypothesis
  | joining nexts _ inductionHypothesis => exact .joining nexts inductionHypothesis
  | spawning _ inductionHypothesis => exact .spawning inductionHypothesis
  | suspended names frames below => exact .suspended names frames (below.later more keeps)
  | delayed names frames below => exact .delayed names frames (below.later more keeps)
  | namingSuspended frames below => exact .namingSuspended frames (below.later more keeps)
  | namingDelayed frames below => exact .namingDelayed frames (below.later more keeps)
  | continuing frames below => exact .continuing frames (below.later more keeps)
  | mapping frames below => exact .mapping frames (below.later more keeps)
  | switching first restores frames below =>
      exact .switching first restores frames (below.later more keeps)
  | restoring frames below => exact .restoring frames (below.later more keeps)
  | registering reached below => exact .registering (reached.append more) (below.later more keeps)
  | detaching reached below => exact .detaching (reached.append more) (below.later more keeps)
  | telling below => exact .telling (below.later more keeps)

theorem Focus.Keeps.later {focus : Focus Memory .unit} (holds : focus.Keeps history runs depth) :
    focus.Keeps (history ++ more) after depth := by
  cases holds with
  | code modest below => exact .code modest (below.later more keeps)
  | iterate modest frames below => exact .iterate modest frames (below.later more keeps)
  | feed frames below => exact .feed frames (below.later more keeps)
  | finish below => exact .finish (below.later more keeps)
  | complete opened below => exact .complete opened (below.later more keeps)
  | unwind below => exact .unwind (below.later more keeps)
  | halted => exact .halted

end Later

def Agrees (history : List (Record Memory)) (host : Host Memory) (openings : List Opening) : Prop :=
  ∀ opening ∈ openings, ∃ others, opening ∈ others ∧
    Account (recordsOf opening.run history) others (boundaryOf host.runs opening.run)

theorem Agrees.of_mem {history : List (Record Memory)} {host : Host Memory}
    {openings : List Opening} (agrees : Agrees history host openings) {opening : Opening}
    (member : opening ∈ openings) : Agrees history host [opening] := by
  intro other same
  cases List.mem_singleton.1 same
  exact agrees opening member

section Step

variable {history : List (Record Memory)} {runs : Array (Run Memory)} {depth rank run : Nat}
  {host : Host Memory} {own : Option Completer}

theorem Callers.Hold.serve {callers : Callers Memory .unit .unit}
    (holds : callers.Hold history runs depth rank run) :
    ∃ rank own, callers.Serve history runs depth rank own := by
  cases holds with
  | root _ _ nexts => exact ⟨_, _, .code (fun _ => nexts) .bottom⟩
  | nested _ reached below => exact ⟨_, _, .registering reached below⟩

theorem Callers.Serve.finished {callers : Callers Memory .unit .unit}
    (serves : callers.Serve history runs depth rank own) :
    (Machine.finished callers host).focus.Keeps history runs depth :=
  .code .unit serves

theorem Callers.Hold.finished {callers : Callers Memory .unit .unit}
    (holds : callers.Hold history runs depth rank run) :
    (Machine.finished callers host).focus.Keeps history runs depth := by
  obtain ⟨rank, own, serves⟩ := holds.serve
  exact serves.finished

theorem Callers.Hold.goingOn {callers : Callers Memory .unit .unit}
    (holds : callers.Hold history runs depth rank run) {pending : Stack (Frame Memory)}
    (frames : pending.Modest rank) (outcome : Outcome Value) (token : Token) :
    (Focus.goingOn run outcome pending token callers).Keeps history runs depth := by
  cases outcome with
  | completed value => exact .iterate .pure frames holds
  | failed failure => exact .iterate .raise frames holds
  | canceled => exact .finish holds

/-- A registration that returns leaves its run, or its loop goes on with the frames that were
pending at the boundary. -/
theorem keeps_detach {epoch : Nat} {token : Token} {callers : Callers Memory .unit .unit}
    (agrees : Agrees history host [⟨run, epoch, token, host.thread.id⟩])
    (reached : ReachedModestly history run epoch rank)
    (holds : callers.Hold history runs depth rank run) :
    (Machine.detach run epoch token callers host).focus.Keeps history runs depth := by
  obtain ⟨others, member, account⟩ := agrees _ (.head _)
  obtain ⟨reach, listed, sameEpoch, _, _, focus⟩ :
      ∃ reach ∈ _, _ ∧ _ ∧ _ ∧ (Machine.detach run epoch token callers host).focus = _ :=
    Machine.focus_detach_of_open host account member rfl
  obtain ⟨other, otherListed, otherEpoch, frames⟩ := reached
  obtain rfl := account.eq_of_epoch_eq otherListed listed (otherEpoch.trans sameEpoch.symm)
  rw [focus]
  have stays : (Machine.finished callers host).focus.Keeps history runs depth := holds.finished
  cases (attempts epoch (recordsOf run history)).head? with
  | none => exact stays
  | some first =>
      dsimp only
      split
      · exact holds.goingOn frames _ _
      · exact stays

/-- No completion of a boundary resumes the run on the thread on which its registration is open. -/
theorem focus_complete_of_open {completer : Completer} {outcome : Outcome Value} {token : Token}
    {callers : Callers Memory .unit .unit}
    (agrees : Agrees history host [⟨completer.run, completer.epoch, token, host.thread.id⟩]) :
    (Machine.complete completer outcome callers host).focus = .code Code.unit callers := by
  obtain ⟨others, member, account⟩ := agrees _ (.head _)
  obtain ⟨reach, listed, sameEpoch, _, sameThread⟩ := account.opened _ member
  by_cases unattempted : attempts completer.epoch (recordsOf completer.run history) = []
  · have parked := account.unreturned_of_open member
    have completes : ite _ (Machine.complete completer outcome callers host = _) _ :=
      Machine.complete_of_unattempted host account unattempted listed sameEpoch
    rw [if_pos ⟨sameThread, parked⟩] at completes
    rw [completes]
    rfl
  · rw [Machine.complete_of_over host account (.inl unattempted)]
    rfl

section Loop

variable {pending : Stack (Frame Memory)} {token : Token} {callers : Callers Memory .unit .unit}
  (frames : pending.Modest rank) (below : callers.Hold history runs depth rank run)
include frames below

theorem keeps_descend {frame : Frame Memory} {source : Plan Memory} (more : frame.Modest rank)
    (modest : source.Modest rank) :
    (Loop.descend ⟨.run run, pending, token⟩ frame source callers host).focus.Keeps
      history runs depth := by
  refine .iterate modest (fun other member => ?_) below
  rw [Stack.toList_push] at member
  rcases List.mem_cons.1 member with rfl | older
  · exact more
  · exact frames other older

theorem keeps_goUnder {next : Token} {source : Plan Memory}
    {restore : Option (Result → Token → Token → Code Memory .token)}
    (modest : source.Modest rank)
    (restores : ∀ back ∈ restore, ∀ result old token, (back result old token).Modest rank none) :
    (Loop.goUnder ⟨.run run, pending, token⟩ next source restore callers host).focus.Keeps
      history runs depth := by
  unfold Loop.goUnder
  split
  · exact .iterate modest frames below
  · cases restore with
    | none => exact .iterate modest frames below
    | some back => exact keeps_descend frames below (restores back rfl) modest

theorem keeps_goBackTo {next : Token} {result : Result} :
    (Loop.goBackTo ⟨.run run, pending, token⟩ next result callers host).focus.Keeps
      history runs depth := by
  unfold Loop.goBackTo
  split
  · exact .iterate (.ofResult result) frames below
  · exact .iterate (.ofResult result) frames below

theorem keeps_feed {result : Result} :
    (Loop.feed ⟨.run run, pending, token⟩ result callers host).focus.Keeps history runs depth := by
  simp only [Loop.feed]
  split
  · exact .finish below
  · rename_i frame rest popped
    have among := Focus.frameFor_subset popped
    have more := frames frame (among (.head _))
    have others : rest.Modest rank := fun other member => frames other (among (.tail _ member))
    cases frame with
    | bind next =>
        cases result with
        | ok value => exact .code (more value) (.continuing others below)
        | error failure => exact .iterate .raise others below
    | map change =>
        cases result with
        | ok value => exact .code (more value) (.mapping others below)
        | error failure => exact .iterate .raise others below
    | handle handler =>
        cases result with
        | ok value => exact .iterate .raise others below
        | error failure => exact .code (more failure) (.continuing others below)
    | redeem onFailure onValue =>
        cases result with
        | ok value => exact .code (more.2 value) (.continuing others below)
        | error failure => exact .code (more.1 failure) (.continuing others below)
    | restore old back =>
        cases result with
        | ok value => exact .code (more _ _ _) (.restoring others below)
        | error failure => exact .code (more _ _ _) (.restoring others below)

theorem keeps_iterate {plan : Plan Memory} (modest : plan.Modest rank)
    (inner : ∀ registration, plan ≠ .async registration) :
    (Loop.iterate ⟨.run run, pending, token⟩ plan callers host).focus.Keeps history runs depth := by
  simp only [Loop.iterate]
  split
  · exact .finish below
  · cases modest with
    | pure | raise => exact .feed frames below
    | suspendWith thunks names => exact .code (thunks ()) (.suspended names frames below)
    | delayWith thunks names => exact .code (thunks ()) (.delayed names frames below)
    | calling | hopping => exact absurd rfl (inner _)
    | bind first nexts => exact keeps_descend frames below nexts first
    | map first changes => exact keeps_descend frames below changes first
    | handle first handlers => exact keeps_descend frames below handlers first
    | redeem first handlers nexts => exact keeps_descend frames below ⟨handlers, nexts⟩ first
    | continueOn inside => exact .iterate (.hopping inside) frames below
    | switch first modifies restores =>
        exact .code (modifies token) (.switching first restores frames below)

end Loop

section Caller

variable {form : Form} {callers : Callers Memory .unit form}
  (serves : callers.Serve history runs depth rank own)
include serves

theorem keeps_answer {answer : Answer Memory form} (modest : answer.Modest rank)
    (agrees : Agrees history host (callers.openings host.thread.id)) :
    (callers.answer answer host).focus.Keeps history runs depth := by
  cases serves with
  | bottom => exact .halted
  | code nexts below => cases answer; exact .code (nexts ()) below
  | guarding nexts below => cases answer; exact .code (nexts _) below
  | joining nexts below => cases answer; exact .code (nexts _) below
  | spawning below => cases answer; exact below.finished
  | suspended names frames below =>
      cases modest with
      | plan modest => exact .iterate modest frames below
  | continuing frames below =>
      cases modest with
      | plan modest => exact .iterate modest frames below
  | delayed names frames below => cases answer; exact .feed frames below
  | namingDelayed frames below => cases answer; exact .feed frames below
  | namingSuspended frames below => cases answer; exact .iterate .raise frames below
  | mapping frames below => cases answer; exact .iterate .pure frames below
  | switching first restores frames below =>
      cases answer
      exact keeps_goUnder frames below first restores
  | restoring frames below => cases answer; exact keeps_goBackTo frames below
  | registering reached below =>
      cases answer
      have closed : Agrees history host.closeGuard [⟨_, _, _, host.closeGuard.thread.id⟩] :=
        agrees.of_mem (.head _)
      exact keeps_detach closed reached below
  | detaching reached below =>
      cases answer
      exact keeps_detach (agrees.of_mem (.head _)) reached below
  | telling below => cases answer; exact below.finished

theorem keeps_unwind {payload : Payload} :
    (callers.unwind payload host).focus.Keeps history runs depth := by
  cases serves with
  | bottom => exact .halted
  | code nexts below => exact .unwind below
  | guarding nexts below => exact .code (nexts _) below
  | joining nexts below => exact .code (nexts _) below
  | spawning below => exact below.finished
  | suspended names frames below => exact .code (names _) (.namingSuspended frames below)
  | delayed names frames below => exact .code (names _) (.namingDelayed frames below)
  | namingDelayed frames below => exact .feed frames below
  | namingSuspended frames below | continuing frames below | mapping frames below
  | switching _ _ frames below | restoring frames below => exact .iterate .raise frames below
  | registering reached below => exact .complete (fun _ => ⟨_, .head _⟩) (.detaching reached below)
  | detaching reached below =>
      obtain ⟨rank, own, serves⟩ := below.serve
      exact .unwind serves
  | telling below => exact below.finished

theorem Callers.Serve.opened {completer : Completer} (may : own = some completer) (thread : Nat) :
    ∃ token, Opening.mk completer.run completer.epoch token thread ∈ callers.openings thread := by
  induction serves with
  | code _ _ inductionHypothesis | guarding _ _ inductionHypothesis =>
      obtain ⟨token, member⟩ := inductionHypothesis may
      exact ⟨token, List.mem_append_right _ member⟩
  | registering | detaching =>
      cases may
      exact ⟨_, .head _⟩
  | _ => cases may

theorem keeps_evaluate {code : Code Memory form} (modest : code.Modest rank own)
    (agrees : Agrees history host (callers.openings host.thread.id)) :
    (Machine.evaluate code callers host).focus.Keeps history runs depth := by
  cases modest with
  | done modest => exact keeps_answer serves modest agrees
  | ask nexts => exact .code (nexts _) serves
  | panic => exact .unwind serves
  | guard bodies nexts => exact .code (bodies ()) (.guarding nexts serves)
  | onThread bodies nexts =>
      simp only [Machine.evaluate, Machine.spawn]
      split
      · exact .code .panic serves
      · exact .code (bodies ()) (.joining nexts serves)
  | complete nexts =>
      exact .complete (fun thread => (Callers.Serve.code nexts serves).opened rfl thread)
        (.code nexts serves)
  | immediately tasks nexts => exact .code (tasks ()) (.code nexts serves)
  | spawning tasks nexts =>
      simp only [Machine.evaluate, Machine.execute, Machine.spawn]
      split
      · exact .code .panic (.code nexts serves)
      · exact .code (tasks ()) (.spawning (.code nexts serves))
  | queueing schedules nexts => exact .code (schedules _) (.code nexts serves)

end Caller

theorem keeps_finish {outcome : Outcome Value} {callers : Callers Memory .unit .unit}
    (holds : callers.Hold history host.runs depth rank run) :
    (Machine.finish run outcome callers host).focus.Keeps history host.runs depth := by
  have received (receiver : Receiver Memory) (known : receiverOf host.runs run = some receiver) :
      ∃ told boundary, host.runs[run]? = some ⟨receiver, told, boundary⟩ := by
    obtain ⟨⟨_, told, boundary⟩, found, rfl⟩ := Option.map_eq_some_iff.1 known
    exact ⟨told, boundary, found⟩
  cases holds with
  | root receiver receives nexts =>
      obtain ⟨told, boundary, found⟩ := received _ receiver
      simp only [Machine.finish, found]
      split
      · exact (Callers.Hold.root receiver receives nexts).finished
      · exact .code (receives outcome) (.telling (.root receiver receives nexts))
  | nested receiver reached below =>
      obtain ⟨told, boundary, found⟩ := received _ receiver
      simp only [Machine.finish, found]
      split
      · exact (Callers.Hold.nested receiver reached below).finished
      · exact .complete (fun _ => ⟨_, .head _⟩) (.telling (.nested receiver reached below))

theorem keeps_complete {completer : Completer} {outcome : Outcome Value}
    {callers : Callers Memory .unit .unit}
    (opened : ∀ thread, ∃ token,
      Opening.mk completer.run completer.epoch token thread ∈ callers.openings thread)
    (serves : callers.Serve history runs depth rank own)
    (agrees : Agrees history host (callers.openings host.thread.id)) :
    (Machine.complete completer outcome callers host).focus.Keeps history runs depth := by
  obtain ⟨token, member⟩ := opened host.thread.id
  rw [focus_complete_of_open (agrees.of_mem member)]
  exact .code .unit serves

theorem ReachedModestly.of_mem {thread epoch : Nat} {registration : Registration Memory}
    {token : Token} {pending : Stack (Frame Memory)}
    (member : Record.mk run thread (.reached epoch registration token pending) ∈ history)
    (frames : pending.Modest rank) :
    ReachedModestly history run epoch rank :=
  ⟨⟨epoch, registration, token, pending, thread⟩,
    List.mem_filterMap.2 ⟨_, List.mem_filter.2 ⟨member, decide_eq_true rfl⟩, rfl⟩, rfl, frames⟩

theorem receiverOf_addRun (host : Host Memory) (receiver : Receiver Memory) :
    receiverOf (host.addRun receiver).2.runs host.runs.size = some receiver := by
  simp [receiverOf, Host.addRun]

/-- An iteration that reaches a boundary calls its registration, or starts the source of the hop,
which may hop one level less. -/
theorem keeps_reach {pending : Stack (Frame Memory)} {token : Token}
    {registration : Registration Memory} {callers : Callers Memory .unit .unit}
    (frames : pending.Modest rank)
    (below : callers.Hold history host.runs depth rank run)
    (modest : (Plan.async registration).Modest rank) {machine : Machine Memory .unit}
    (here : machine = ⟨.iterate ⟨.run run, pending, token⟩ (.async registration) callers, host⟩)
    (keeps : KeepsReceivers host.runs machine.next.host.runs) :
    machine.next.focus.Keeps (history ++ machine.records) machine.next.host.runs depth := by
  have still := below.later machine.records keeps
  cases canceled : host.tokens.isCanceled token with
  | true =>
      have next : machine.next =
          ⟨.finish run .canceled callers, host.emit (.observedCancellation token.number)⟩ := by
        subst here
        simp only [Machine.next, Loop.iterate, canceled, if_true]
      rw [next] at still ⊢
      exact .finish still
  | false =>
      have next : machine.next =
          Loop.suspend ⟨.run run, pending, token⟩ registration callers host := by
        subst here
        simp only [Machine.next, Loop.iterate, canceled, Bool.false_eq_true, if_false]
        rfl
      have recorded : Record.mk run host.thread.id
          (.reached (host.epoch run + 1) registration token pending) ∈ machine.records := by
        subst here
        refine List.mem_map.2 ⟨(run, _), List.mem_append_left _ ?_, rfl⟩
        simp only [Focus.happenings, Loop.note, canceled, Bool.false_eq_true, if_false]
        exact List.mem_map.2 ⟨_, .tail _ (.head _), rfl⟩
      have reached : ReachedModestly (history ++ machine.records) run (host.epoch run + 1) rank :=
        .of_mem (List.mem_append_right _ recorded) frames
      have epoch : (((host.boundary? run).getD { token }).arm token host.thread.id pending).epoch =
          host.epoch run + 1 := by
        rw [Host.epoch]
        cases host.boundary? run <;> rfl
      rw [← epoch] at reached
      cases modest with
      | calling registers =>
          rw [next] at still ⊢
          exact .code (registers _ _) (.registering reached still)
      | hopping inside =>
          rw [next] at still ⊢
          refine .iterate inside (fun _ member => ?_) (.nested ?_ reached still)
          · cases member
          · exact receiverOf_addRun _ _

/-- Whatever a thread does for a modest plan, loops nest no deeper than hops may. -/
theorem keeps_next {machine : Machine Memory .unit}
    (keeps : machine.focus.Keeps history machine.host.runs depth)
    (agrees : Agrees history machine.host (machine.focus.openings machine.host.thread.id))
    (receivers : KeepsReceivers machine.host.runs machine.next.host.runs) :
    machine.next.focus.Keeps (history ++ machine.records) machine.next.host.runs depth := by
  obtain ⟨focus, host⟩ := machine
  cases keeps with
  | code modest below => exact (keeps_evaluate below modest agrees).later _ receivers
  | @iterate rank run pending token plan callers modest frames below =>
      by_cases boundary : ∃ registration, plan = .async registration
      · obtain ⟨registration, rfl⟩ := boundary
        exact keeps_reach frames below modest rfl receivers
      · rw [not_exists] at boundary
        exact (keeps_iterate frames below modest boundary).later _ receivers
  | feed frames below => exact (keeps_feed frames below).later _ receivers
  | finish below => exact (keeps_finish below).later _ receivers
  | complete opened below => exact (keeps_complete opened below agrees).later _ receivers
  | unwind below => exact (keeps_unwind below).later _ receivers
  | halted => exact .halted

end Step

namespace Chronicle

variable {chronicle : Chronicle Memory} {position : Nat} {depth : Nat}

theorem Reachable.keepsReceivers (reachable : chronicle.Reachable) (position : Nat) :
    KeepsReceivers chronicle.pool.host.runs (chronicle.move position).pool.host.runs := by
  rcases chronicle.pool.move_cases position with ⟨before, worker, rest, workers, moved⟩ | still
  · have effects := reachable.kept.effects_worker .nothing workers
    rw [move, moved]
    exact effects.keepsReceivers
  · rw [move, still]
    exact fun _ _ known => known

theorem Reachable.agrees (reachable : chronicle.Reachable) {worker : Worker Memory}
    (member : worker ∈ chronicle.pool.workers) :
    Agrees chronicle.history (worker.machine chronicle.pool.host).host
      (worker.focus.openings worker.thread.id) := fun opening here =>
  ⟨_, List.mem_filter.2 ⟨List.mem_flatMap.2 ⟨worker, member, here⟩, decide_eq_true rfl⟩,
    reachable.holds.ledger opening.run⟩

inductive Runs (chronicle : Chronicle Memory) (position depth : Nat) : Prop where
  | opening {plan token receive next thread} (modest : plan.Modest depth)
      (receives : ∀ outcome, (receive outcome).Modest depth none)
      (nexts : ∀ input, (next input).Modest depth none)
      (here : chronicle.pool.workers[position]? =
        some ⟨(.code (.run plan token receive next) .bottom : Focus Memory .unit), thread⟩)
  | going {focus : Focus Memory .unit} {thread}
      (keeps : focus.Keeps chronicle.history chronicle.pool.host.runs depth)
      (here : chronicle.pool.workers[position]? = some ⟨focus, thread⟩)

theorem Runs.activations_le (runs : chronicle.Runs position depth) {worker : Worker Memory}
    (here : chronicle.pool.workers[position]? = some worker) :
    worker.focus.activations ≤ depth + 1 := by
  cases runs with
  | opening _ _ _ found =>
      rw [here] at found
      cases found
      exact Nat.zero_le _
  | going keeps found =>
      rw [here] at found
      cases found
      exact keeps.activations_le

theorem Runs.move (reachable : chronicle.Reachable) (runs : chronicle.Runs position depth)
    (other : Nat) : (chronicle.move other).Runs position depth := by
  have receivers := reachable.keepsReceivers other
  by_cases same : other = position
  · subst same
    cases runs with
    | @opening plan token receive next thread modest receives nexts here =>
        have moved := Pool.move_of_worker here
        have after : (chronicle.move other).pool.workers[other]? = _ := Pool.worker_move_self here
        refine .going (.iterate modest (fun _ member => ?_) (.root ?_ receives (nexts ()))) after
        · cases member
        · rw [Chronicle.move, moved]
          exact receiverOf_addRun _ _
    | going keeps here =>
        have moved := Pool.move_of_worker here
        have after : (chronicle.move other).pool.workers[other]? = _ := Pool.worker_move_self here
        rw [Chronicle.move, moved] at receivers
        refine .going ?_ after
        rw [Chronicle.move, moved]
        exact keeps_next keeps (reachable.agrees (List.mem_of_getElem? here)) receivers
  · have still : (chronicle.move other).pool.workers[position]? = _ := Pool.worker_move_of_ne same
    cases runs with
    | opening modest receives nexts here => exact .opening modest receives nexts (still.trans here)
    | going keeps here => exact .going (keeps.later _ receivers) (still.trans here)

end Chronicle

/-- While a modest plan is run, by whatever schedule, its thread never has more loops of runs open
at once than the hops of the plan nest deep in the direction of their sources, and one more: however
deep sequencing, recovery and changes of token go, they cost nothing. -/
theorem activations_bounded_by_hops (memory : Memory)
    (codes : List (Option String × Code Memory .unit)) (position depth : Nat) {name : Option String}
    {plan : Plan Memory} {token : Token} {receive : Outcome Value → Code Memory .unit}
    {next : Unit → Code Memory .unit}
    (here : codes[position]? = some (name, .run plan token receive next))
    (modest : plan.Modest depth)
    (receives : ∀ outcome, (receive outcome).Modest depth none)
    (nexts : ∀ input, (next input).Modest depth none) (schedule : List Nat) {worker : Worker Memory}
    (found : ((Pool.opening memory codes).chronicle schedule).pool.workers[position]? =
      some worker) :
    worker.focus.activations ≤ depth + 1 := by
  have opened : (Pool.opening memory codes).workers[position]? =
      some ⟨.code (.run plan token receive next) .bottom, { id := position, name }⟩ := by
    simp [Pool.opening, List.getElem?_mapIdx, here]
  have runs : ((Pool.opening memory codes).chronicle schedule).Reachable ∧
      ((Pool.opening memory codes).chronicle schedule).Runs position depth := by
    refine Pool.chronicle_induction (motive := fun chronicle =>
      chronicle.Reachable ∧ chronicle.Runs position depth) _
      ⟨⟨memory, codes, [], rfl⟩, .opening modest receives nexts opened⟩ ?_ schedule
    rintro chronicle other ⟨reachable, runs⟩
    exact ⟨reachable.after [other], runs.move reachable other⟩
  exact runs.2.activations_le found

/-- So many hops onto the immediate context, each but the last in the source of another. -/
def Plan.hops : Nat → Plan Memory
  | 0 => .unit
  | count + 1 => .continueOn (hops count) .immediate

theorem Plan.modest_hops (count : Nat) : (hops count : Plan Memory).Modest count := by
  induction count with
  | zero => exact .pure
  | succ count inductionHypothesis => exact .continueOn inductionHypothesis

theorem Chronicle.activations_after_hops {last : Form} (count : Nat) {chronicle : Chronicle Memory}
    {run : Nat} {callers : Callers Memory last .unit} {thread : Thread}
    (here : chronicle.pool.workers[0]? =
      some ⟨.iterate ⟨.run run, {}, .uncancelable⟩ (.hops count) callers, thread⟩) :
    ∃ worker, (chronicle.after (List.replicate (2 * count) 0)).pool.workers[0]? = some worker ∧
      worker.focus.activations = callers.activations + count + 1 := by
  induction count generalizing chronicle run callers thread with
  | zero => exact ⟨_, here, Nat.add_comm _ _⟩
  | succ count inductionHypothesis =>
      have rewritten : (chronicle.move 0).pool.workers[0]? = _ := Pool.worker_move_self here
      have nested : ((chronicle.move 0).move 0).pool.workers[0]? = _ :=
        Pool.worker_move_self rewritten
      obtain ⟨worker, found, counted⟩ := inductionHypothesis nested
      have more : worker.focus.activations = 1 + callers.activations + count + 1 := counted
      exact ⟨worker, found, by omega⟩

theorem activations_bounded_by_hops_two :
    ∃ worker, ((Pool.opening () (Plan.hops 2).alone).chronicle
        (List.replicate 5 0)).pool.workers[0]? = some worker ∧ worker.focus.activations = 3 ∧
      worker.focus.activations ≤ 2 + 1 := by
  have started : ((Pool.opening () (Plan.hops 2 : Plan Unit).alone).chronicle
      [0]).pool.workers[0]? = _ := Pool.worker_move_self rfl
  obtain ⟨worker, found, counted⟩ := Chronicle.activations_after_hops 2 started
  refine ⟨worker, found, counted, ?_⟩
  exact activations_bounded_by_hops () (Plan.hops 2).alone 0 2 rfl (Plan.modest_hops 2)
    (fun _ => .unit) (fun _ => .unit) (List.replicate 5 0) found

/-- No bound fits all plans that hop onto the immediate context, even those without any code. -/
theorem activations_unbounded : ¬∃ bound, ∀ (count : Nat) (schedule : List Nat)
    (worker : Worker Unit), ((Pool.opening () (Plan.hops count).alone).chronicle
        schedule).pool.workers[0]? = some worker → worker.focus.activations ≤ bound := by
  rintro ⟨bound, bounded⟩
  have started : ((Pool.opening () (Plan.hops bound : Plan Unit).alone).chronicle
      [0]).pool.workers[0]? = _ := Pool.worker_move_self rfl
  obtain ⟨worker, found, counted⟩ := Chronicle.activations_after_hops bound started
  have most := bounded bound (0 :: List.replicate (2 * bound) 0) worker found
  omega

end Trampoline
