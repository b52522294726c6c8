import Mathlib.Algebra.Group.Nat.Defs
import Trampoline.Proofs.Cells

/-!
The cells of a run's handle under threads that work on them at the same time.

Each access of a cell is one move, and between two moves of one thread any other may move.  A thread
is in the middle of a number of activities, the innermost first: it drives the run, it arms its
boundary, it is inside a registration, it leaves one, it completes a boundary.  The point that it has
reached is part of the activity.  Whoever drives the run or is inside a registration is in code of
the user's, which may complete any boundary; so is a thread that is in the middle of nothing.

What the user's code does is given with the move.  Nothing else is assumed of it.
-/

namespace Trampoline

variable {Memory : Type}

namespace Race

/-- The number of an arming, as the word has it: after 62 bits it wraps. -/
abbrev Epoch := BitVec 62

/-- The epoch and the phase, which are read and written together. -/
structure Packed where
  epoch : Epoch := 0
  phase : Cells.Word := .idle
  deriving DecidableEq, Repr

def Packed.isArmed (word : Packed) : Bool :=
  match word.phase with
  | .registering | .waiting => true
  | .idle | .parked => false

structure Handle (Memory : Type) where
  word : Packed := {}
  /-- The token that the run resumes with. -/
  token : Token
  saved : Stack (Frame Memory) := {}
  parked : Option (Outcome Value) := none
  registrar : Option Nat := none

inductive Arming where
  | setToken
  | saveStack
  | setRegistrar
  | readEpoch
  | writeWord (epoch : Epoch)

inductive Detaching where
  | startWaiting
  | clearWord
  | takeParked
  | takeStack (outcome : Outcome Value)

inductive Firing (Memory : Type) where
  | readWord
  | readRegistrar
  | park
  | announceParked
  | takeBack
  | claim (phase : Cells.Word)
  | takeStack
  | readToken (outcome : Outcome Value) (pending : Stack (Frame Memory))

/-- What a thread is in the middle of. -/
inductive Activity (Memory : Type) where
  /-- Driving the run. -/
  | running
  | arming (pending : Stack (Frame Memory)) (token : Token) (point : Arming)
  /-- Inside the registration that an arming is for. -/
  | registering (epoch : Epoch) (token : Token)
  | detaching (epoch : Epoch) (token : Token) (point : Detaching)
  /-- Completing a boundary with what is given; what is held of it is gone while it is parked. -/
  | firing (epoch : Epoch) (given : Outcome Value) (held : Option (Outcome Value))
      (point : Firing Memory)

/-- What is told of a race. -/
inductive Entry (Memory : Type) where
  | armed (epoch : Epoch) (thread : Nat) (pending : Stack (Frame Memory)) (token : Token)
  /-- The registration has returned, and nothing has been accepted yet. -/
  | waiting (epoch : Epoch)
  /-- A completion is accepted on the thread that registers, which is to go on with it. -/
  | parked (epoch : Epoch) (thread : Nat) (outcome : Outcome Value)
  /-- A completion is accepted on a thread that goes on with it itself. -/
  | claimed (epoch : Epoch) (thread : Nat) (outcome : Outcome Value)
  | ignored (epoch : Epoch) (thread : Nat)
  /-- Whoever is to go on with an accepted completion does not find its outcome. -/
  | missed (epoch : Epoch) (thread : Nat)
  | wentOn (epoch : Epoch) (thread : Nat) (outcome : Outcome Value)
      (pending : Stack (Frame Memory)) (token : Token)
  | told (outcome : Outcome Value)

/-- What a thread does next: go on with what it is in the middle of, or what its code asks for. -/
inductive Choice (Memory : Type) where
  | proceed
  | fire (epoch : Epoch) (outcome : Outcome Value)
  /-- The loop reaches a boundary. -/
  | reach (pending : Stack (Frame Memory)) (token : Token)
  | changeToken (token : Token)
  /-- The loop ends the run. -/
  | finish (outcome : Outcome Value)
  /-- The registration returns. -/
  | leave

def Activity.isUser : Activity Memory → Bool
  | .running | .registering _ _ => true
  | .arming _ _ _ | .detaching _ _ _ | .firing _ _ _ _ => false

/-- What one access makes of the cells and of the activity, and what is told of it. -/
structure Effect (Memory : Type) where
  handle : Handle Memory
  activity : Option (Activity Memory)
  entry : Option (Entry Memory) := none

namespace Handle

variable (handle : Handle Memory) (thread : Nat)

def proceedArming (pending : Stack (Frame Memory)) (token : Token) : Arming → Effect Memory
  | .setToken => { handle := { handle with token }, activity := some (.arming pending token .saveStack) }
  | .saveStack =>
      { handle := { handle with saved := pending }
        activity := some (.arming pending token .setRegistrar) }
  | .setRegistrar =>
      { handle := { handle with registrar := some thread }
        activity := some (.arming pending token .readEpoch) }
  | .readEpoch =>
      { handle, activity := some (.arming pending token (.writeWord (handle.word.epoch + 1))) }
  | .writeWord epoch =>
      { handle := { handle with word := { epoch, phase := .registering } }
        activity := some (.registering epoch token)
        entry := some (.armed epoch thread pending token) }

def proceedDetaching (epoch : Epoch) (token : Token) : Detaching → Effect Memory
  | .startWaiting =>
      if handle.word = { epoch, phase := .registering } then
        { handle := { handle with word := { epoch, phase := .waiting } }
          activity := none
          entry := some (.waiting epoch) }
      else if handle.word = { epoch, phase := .parked } then
        { handle, activity := some (.detaching epoch token .clearWord) }
      else { handle, activity := none }
  | .clearWord =>
      { handle := { handle with word := { epoch, phase := .idle } }
        activity := some (.detaching epoch token .takeParked) }
  | .takeParked =>
      match handle.parked with
      | some outcome =>
          { handle := { handle with parked := none }
            activity := some (.detaching epoch token (.takeStack outcome)) }
      | none => { handle, activity := none, entry := some (.missed epoch thread) }
  | .takeStack outcome =>
      { handle := { handle with saved := {} }
        activity := some .running
        entry := some (.wentOn epoch thread outcome handle.saved token) }

def proceedFiring (epoch : Epoch) (given : Outcome Value) (held : Option (Outcome Value)) :
    Firing Memory → Effect Memory
  | .readWord =>
      if handle.word.epoch = epoch ∧ handle.word.isArmed then
        if handle.word.phase = .registering then
          { handle, activity := some (.firing epoch given held .readRegistrar) }
        else { handle, activity := some (.firing epoch given held (.claim handle.word.phase)) }
      else { handle, activity := none, entry := some (.ignored epoch thread) }
  | .readRegistrar =>
      if handle.registrar = some thread then
        { handle, activity := some (.firing epoch given held .park) }
      else { handle, activity := some (.firing epoch given held (.claim .registering)) }
  | .park =>
      { handle := { handle with parked := held }
        activity := some (.firing epoch given none .announceParked) }
  | .announceParked =>
      if handle.word = { epoch, phase := .registering } then
        { handle := { handle with word := { epoch, phase := .parked } }
          activity := none
          entry := some (.parked epoch thread given) }
      else { handle, activity := some (.firing epoch given held .takeBack) }
  | .takeBack =>
      { handle := { handle with parked := none }
        activity := some (.firing epoch given handle.parked .readWord) }
  | .claim phase =>
      if handle.word = { epoch, phase } then
        { handle := { handle with word := { epoch, phase := .idle } }
          activity := some (.firing epoch given held .takeStack)
          entry := some (.claimed epoch thread given) }
      else { handle, activity := some (.firing epoch given held .readWord) }
  | .takeStack =>
      match held with
      | some outcome =>
          { handle := { handle with saved := {} }
            activity := some (.firing epoch given none (.readToken outcome handle.saved)) }
      | none =>
          { handle := { handle with saved := {} }
            activity := none
            entry := some (.missed epoch thread) }
  | .readToken outcome pending =>
      { handle
        activity := some .running
        entry := some (.wentOn epoch thread outcome pending handle.token) }

/-- The next access of what a thread is in the middle of; code of the user's has none. -/
def proceed : Activity Memory → Effect Memory
  | .arming pending token point => handle.proceedArming thread pending token point
  | .detaching epoch token point => handle.proceedDetaching thread epoch token point
  | .firing epoch given held point => handle.proceedFiring thread epoch given held point
  | .running => { handle, activity := some .running }
  | .registering epoch token => { handle, activity := some (.registering epoch token) }

end Handle

end Race

/-- The threads that work on a handle. -/
structure Race (Memory : Type) where
  handle : Race.Handle Memory
  /-- What each thread is in the middle of, the innermost first. -/
  threads : List (List (Race.Activity Memory))
  /-- What has been told so far. -/
  log : List (Race.Entry Memory) := []

namespace Race

/-- What becomes of the activities of a thread by a choice, if it can be made. -/
def Handle.turn (handle : Handle Memory) (thread : Nat) :
    List (Activity Memory) → Choice Memory →
      Option (Handle Memory × List (Activity Memory) × Option (Entry Memory))
  | activity :: rest, .proceed =>
      if activity.isUser then none
      else
        let effect := handle.proceed thread activity
        some (effect.handle, effect.activity.toList ++ rest, effect.entry)
  | .running :: rest, .reach pending token =>
      some (handle, .arming pending token .setToken :: rest, none)
  | .running :: rest, .changeToken token => some ({ handle with token }, .running :: rest, none)
  | .running :: rest, .finish outcome => some (handle, rest, some (.told outcome))
  | .registering epoch token :: rest, .leave =>
      some (handle, .detaching epoch token .startWaiting :: rest, none)
  | activities, .fire epoch outcome =>
      if activities.head?.all Activity.isUser then
        some (handle, .firing epoch outcome (some outcome) .readWord :: activities, none)
      else none
  | _, _ => none

/-- A thread makes a choice; if it cannot, nothing happens. -/
def step (race : Race Memory) (move : Nat × Choice Memory) : Race Memory :=
  match race.threads[move.1]? with
  | none => race
  | some activities =>
      match race.handle.turn move.1 activities move.2 with
      | none => race
      | some (handle, activities, entry) =>
          { handle
            threads := race.threads.set move.1 activities
            log := race.log ++ entry.toList }

def play (race : Race Memory) (schedule : List (Nat × Choice Memory)) : Race Memory :=
  schedule.foldl step race

def opening (threads : Nat) (token : Token) : Race Memory where
  handle := { token }
  threads := [.running] :: List.replicate threads []

/-- What the threads of a race are in the middle of, each with its thread. -/
def cast (race : Race Memory) : List (Nat × Activity Memory) :=
  race.threads.zipIdx.flatMap fun (activities, thread) => activities.map (thread, ·)

/-- The ways that a move can go: an activity of a thread gives way to another one, and something is
told of it. -/
inductive Turns (handle : Handle Memory) (thread : Nat) :
    Option (Activity Memory) → Handle Memory → Option (Activity Memory) →
      Option (Entry Memory) → Prop
  | setToken {pending : Stack (Frame Memory)} {token : Token} :
      Turns handle thread (some (.arming pending token .setToken)) { handle with token }
        (some (.arming pending token .saveStack)) none
  | saveStack {pending : Stack (Frame Memory)} {token : Token} :
      Turns handle thread (some (.arming pending token .saveStack)) { handle with saved := pending }
        (some (.arming pending token .setRegistrar)) none
  | setRegistrar {pending : Stack (Frame Memory)} {token : Token} :
      Turns handle thread (some (.arming pending token .setRegistrar))
        { handle with registrar := some thread } (some (.arming pending token .readEpoch)) none
  | readEpoch {pending : Stack (Frame Memory)} {token : Token} :
      Turns handle thread (some (.arming pending token .readEpoch)) handle
        (some (.arming pending token (.writeWord (handle.word.epoch + 1)))) none
  | writeWord {pending : Stack (Frame Memory)} {token : Token} {epoch : Epoch} :
      Turns handle thread (some (.arming pending token (.writeWord epoch)))
        { handle with word := { epoch, phase := .registering } } (some (.registering epoch token))
        (some (.armed epoch thread pending token))
  | startWaiting {epoch : Epoch} {token : Token}
      (registering : handle.word = { epoch, phase := .registering }) :
      Turns handle thread (some (.detaching epoch token .startWaiting))
        { handle with word := { epoch, phase := .waiting } } none (some (.waiting epoch))
  | findParked {epoch : Epoch} {token : Token} (parked : handle.word = { epoch, phase := .parked }) :
      Turns handle thread (some (.detaching epoch token .startWaiting)) handle
        (some (.detaching epoch token .clearWord)) none
  | findClaimed {epoch : Epoch} {token : Token}
      (unregistering : handle.word ≠ { epoch, phase := .registering })
      (unparked : handle.word ≠ { epoch, phase := .parked }) :
      Turns handle thread (some (.detaching epoch token .startWaiting)) handle none none
  | clearWord {epoch : Epoch} {token : Token} :
      Turns handle thread (some (.detaching epoch token .clearWord))
        { handle with word := { epoch, phase := .idle } }
        (some (.detaching epoch token .takeParked)) none
  | takeParked {epoch : Epoch} {token : Token} {outcome : Outcome Value}
      (parked : handle.parked = some outcome) :
      Turns handle thread (some (.detaching epoch token .takeParked)) { handle with parked := none }
        (some (.detaching epoch token (.takeStack outcome))) none
  | missParked {epoch : Epoch} {token : Token} (missing : handle.parked = none) :
      Turns handle thread (some (.detaching epoch token .takeParked)) handle none
        (some (.missed epoch thread))
  | goOnInline {epoch : Epoch} {token : Token} {outcome : Outcome Value} :
      Turns handle thread (some (.detaching epoch token (.takeStack outcome)))
        { handle with saved := {} } (some .running)
        (some (.wentOn epoch thread outcome handle.saved token))
  | ignore {epoch : Epoch} {given : Outcome Value} {held : Option (Outcome Value)}
      (unarmed : ¬(handle.word.epoch = epoch ∧ handle.word.isArmed)) :
      Turns handle thread (some (.firing epoch given held .readWord)) handle none
        (some (.ignored epoch thread))
  | seeRegistering {epoch : Epoch} {given : Outcome Value} {held : Option (Outcome Value)}
      (registering : handle.word = { epoch, phase := .registering }) :
      Turns handle thread (some (.firing epoch given held .readWord)) handle
        (some (.firing epoch given held .readRegistrar)) none
  | seeWaiting {epoch : Epoch} {given : Outcome Value} {held : Option (Outcome Value)}
      (waiting : handle.word = { epoch, phase := .waiting }) :
      Turns handle thread (some (.firing epoch given held .readWord)) handle
        (some (.firing epoch given held (.claim .waiting))) none
  | isRegistrar {epoch : Epoch} {given : Outcome Value} {held : Option (Outcome Value)}
      (here : handle.registrar = some thread) :
      Turns handle thread (some (.firing epoch given held .readRegistrar)) handle
        (some (.firing epoch given held .park)) none
  | isOther {epoch : Epoch} {given : Outcome Value} {held : Option (Outcome Value)}
      (elsewhere : handle.registrar ≠ some thread) :
      Turns handle thread (some (.firing epoch given held .readRegistrar)) handle
        (some (.firing epoch given held (.claim .registering))) none
  | park {epoch : Epoch} {given : Outcome Value} {held : Option (Outcome Value)} :
      Turns handle thread (some (.firing epoch given held .park)) { handle with parked := held }
        (some (.firing epoch given none .announceParked)) none
  | announceParked {epoch : Epoch} {given : Outcome Value} {held : Option (Outcome Value)}
      (registering : handle.word = { epoch, phase := .registering }) :
      Turns handle thread (some (.firing epoch given held .announceParked))
        { handle with word := { epoch, phase := .parked } } none (some (.parked epoch thread given))
  | failToPark {epoch : Epoch} {given : Outcome Value} {held : Option (Outcome Value)}
      (changed : handle.word ≠ { epoch, phase := .registering }) :
      Turns handle thread (some (.firing epoch given held .announceParked)) handle
        (some (.firing epoch given held .takeBack)) none
  | takeBack {epoch : Epoch} {given : Outcome Value} {held : Option (Outcome Value)} :
      Turns handle thread (some (.firing epoch given held .takeBack)) { handle with parked := none }
        (some (.firing epoch given handle.parked .readWord)) none
  | claim {epoch : Epoch} {given : Outcome Value} {held : Option (Outcome Value)}
      {phase : Cells.Word} (same : handle.word = { epoch, phase }) :
      Turns handle thread (some (.firing epoch given held (.claim phase)))
        { handle with word := { epoch, phase := .idle } }
        (some (.firing epoch given held .takeStack)) (some (.claimed epoch thread given))
  | failToClaim {epoch : Epoch} {given : Outcome Value} {held : Option (Outcome Value)}
      {phase : Cells.Word} (changed : handle.word ≠ { epoch, phase }) :
      Turns handle thread (some (.firing epoch given held (.claim phase))) handle
        (some (.firing epoch given held .readWord)) none
  | takeStack {epoch : Epoch} {given outcome : Outcome Value} :
      Turns handle thread (some (.firing epoch given (some outcome) .takeStack))
        { handle with saved := {} }
        (some (.firing epoch given none (.readToken outcome handle.saved))) none
  | missOutcome {epoch : Epoch} {given : Outcome Value} :
      Turns handle thread (some (.firing epoch given none .takeStack)) { handle with saved := {} }
        none (some (.missed epoch thread))
  | goOn {epoch : Epoch} {given outcome : Outcome Value} {held : Option (Outcome Value)}
      {pending : Stack (Frame Memory)} :
      Turns handle thread (some (.firing epoch given held (.readToken outcome pending))) handle
        (some .running) (some (.wentOn epoch thread outcome pending handle.token))
  | reach {pending : Stack (Frame Memory)} {token : Token} :
      Turns handle thread (some .running) handle (some (.arming pending token .setToken)) none
  | changeToken {token : Token} :
      Turns handle thread (some .running) { handle with token } (some .running) none
  | finish {outcome : Outcome Value} :
      Turns handle thread (some .running) handle none (some (.told outcome))
  | leave {epoch : Epoch} {token : Token} :
      Turns handle thread (some (.registering epoch token)) handle
        (some (.detaching epoch token .startWaiting)) none
  | fire {epoch : Epoch} {outcome : Outcome Value} :
      Turns handle thread none handle (some (.firing epoch outcome (some outcome) .readWord)) none

/-- A move of a thread that is about one activity at most, all others staying. -/
structure Moved (race after : Race Memory) (thread : Nat) (old new : Option (Activity Memory))
    (entry : Option (Entry Memory)) (others : List (Nat × Activity Memory)) : Prop where
  turns : Turns race.handle thread old after.handle new entry
  before : race.cast.Perm (old.toList.map (thread, ·) ++ others)
  now : after.cast.Perm (new.toList.map (thread, ·) ++ others)
  quiet : ∀ member ∈ others, member.1 = thread → member.2.isUser
  log : after.log = race.log ++ entry.toList
  top : ∀ activity ∈ old, ∃ rest, race.threads[thread]? = some (activity :: rest)

/-- No thread has anything open above an access of the library's. -/
def Quiet (race : Race Memory) : Prop :=
  ∀ activities ∈ race.threads, ∀ activity ∈ activities.tail, activity.isUser

section

variable {handle after : Handle Memory} {thread : Nat}

theorem Packed.eq_of_isArmed {word : Packed} {epoch : Epoch} (same : word.epoch = epoch)
    (armed : word.isArmed) :
    word = { epoch, phase := .registering } ∨ word = { epoch, phase := .waiting } := by
  obtain ⟨_, phase⟩ := word
  cases same
  cases phase with
  | registering => exact .inl rfl
  | waiting => exact .inr rfl
  | idle | parked => cases armed

theorem Handle.turns_proceedArming (pending : Stack (Frame Memory)) (token : Token)
    (point : Arming) :
    let effect := handle.proceedArming thread pending token point
    Turns handle thread (some (.arming pending token point)) effect.handle effect.activity
      effect.entry := by
  cases point with
  | setToken => exact .setToken
  | saveStack => exact .saveStack
  | setRegistrar => exact .setRegistrar
  | readEpoch => exact .readEpoch
  | writeWord => exact .writeWord

theorem Handle.turns_proceedDetaching (epoch : Epoch) (token : Token) (point : Detaching) :
    let effect := handle.proceedDetaching thread epoch token point
    Turns handle thread (some (.detaching epoch token point)) effect.handle effect.activity
      effect.entry := by
  cases point with
  | startWaiting =>
      simp only [proceedDetaching]
      split
      case isTrue registering => exact .startWaiting registering
      case isFalse unregistering =>
        split
        case isTrue parked => exact .findParked parked
        case isFalse unparked => exact .findClaimed unregistering unparked
  | clearWord => exact .clearWord
  | takeParked =>
      simp only [proceedDetaching]
      split
      case h_1 outcome parked => exact .takeParked parked
      case h_2 missing => exact .missParked missing
  | takeStack outcome => exact .goOnInline

theorem Handle.turns_proceedFiring (epoch : Epoch) (given : Outcome Value)
    (held : Option (Outcome Value)) (point : Firing Memory) :
    let effect := handle.proceedFiring thread epoch given held point
    Turns handle thread (some (.firing epoch given held point)) effect.handle effect.activity
      effect.entry := by
  cases point with
  | readWord =>
      simp only [proceedFiring]
      split
      case isTrue armed =>
        rcases Packed.eq_of_isArmed armed.1 armed.2 with registering | waiting
        · rw [if_pos (congrArg Packed.phase registering)]
          exact .seeRegistering registering
        · rw [if_neg (by simp [waiting]), waiting]
          exact .seeWaiting waiting
      case isFalse unarmed => exact .ignore unarmed
  | readRegistrar =>
      simp only [proceedFiring]
      split
      case isTrue here => exact .isRegistrar here
      case isFalse elsewhere => exact .isOther elsewhere
  | park => exact .park
  | announceParked =>
      simp only [proceedFiring]
      split
      case isTrue registering => exact .announceParked registering
      case isFalse changed => exact .failToPark changed
  | takeBack => exact .takeBack
  | claim phase =>
      simp only [proceedFiring]
      split
      case isTrue same => exact .claim same
      case isFalse changed => exact .failToClaim changed
  | takeStack =>
      cases held with
      | some outcome => exact .takeStack
      | none => exact .missOutcome
  | readToken outcome pending => exact .goOn

/-- A choice that can be made is about the innermost activity, or begins to complete a boundary in
code of the user's. -/
theorem Handle.turns_of_turn {activities left : List (Activity Memory)} {choice : Choice Memory}
    {entry : Option (Entry Memory)}
    (turned : handle.turn thread activities choice = some (after, left, entry)) :
    ∃ old new rest, activities = old.toList ++ rest ∧ left = new.toList ++ rest ∧
      Turns handle thread old after new entry ∧
      (old = none → rest.head?.all Activity.isUser) := by
  unfold turn at turned
  split at turned
  case h_1 activity rest =>
    split at turned
    case isTrue => cases turned
    case isFalse library =>
      cases turned
      refine ⟨some activity, _, rest, rfl, rfl, ?_, nofun⟩
      cases activity with
      | running | registering => exact absurd rfl library
      | arming pending token point => exact turns_proceedArming pending token point
      | detaching epoch token point => exact turns_proceedDetaching epoch token point
      | firing epoch given held point => exact turns_proceedFiring epoch given held point
  case h_2 rest pending token =>
    cases turned
    exact ⟨some .running, some _, rest, rfl, rfl, .reach, nofun⟩
  case h_3 rest token =>
    cases turned
    exact ⟨some .running, some _, rest, rfl, rfl, .changeToken, nofun⟩
  case h_4 rest outcome =>
    cases turned
    exact ⟨some .running, none, left, rfl, rfl, .finish, nofun⟩
  case h_5 epoch token rest =>
    cases turned
    exact ⟨some (.registering epoch token), some _, rest, rfl, rfl, .leave, nofun⟩
  case h_6 epoch outcome =>
    split at turned
    case isTrue user =>
      cases turned
      exact ⟨none, some _, activities, rfl, rfl, .fire, fun _ => user⟩
    case isFalse => cases turned
  case h_7 => cases turned

end

section

variable {race : Race Memory} {thread : Nat} {activities left : List (Activity Memory)}

theorem exists_cast (found : race.threads[thread]? = some activities) :
    ∃ others : List (Nat × Activity Memory),
      (∀ member ∈ others, member.1 ≠ thread) ∧
      ∀ (handle : Handle Memory) (left : List (Activity Memory)) (log : List (Entry Memory)),
        (Race.mk handle (race.threads.set thread left) log).cast.Perm
          (left.map (thread, ·) ++ others) := by
  obtain ⟨bound, here⟩ := List.getElem?_eq_some_iff.1 found
  let before := race.threads.take thread
  let behind := race.threads.drop (thread + 1)
  have length : before.length = thread := List.length_take_of_le (Nat.le_of_lt bound)
  let named (entry : List (Activity Memory) × Nat) := entry.1.map (entry.2, ·)
  refine ⟨before.zipIdx.flatMap named ++ (behind.zipIdx (thread + 1)).flatMap named, ?_, ?_⟩
  · intro member listed same
    rcases List.mem_append.1 listed with listed | listed
    all_goals
      obtain ⟨⟨rest, index⟩, inside, mapped⟩ := List.mem_flatMap.1 listed
      obtain ⟨_, _, rfl⟩ := List.mem_map.1 mapped
      have bounds := List.mem_zipIdx inside
      dsimp only at same
      omega
  · intro handle left log
    have split : race.threads.set thread left = before ++ left :: behind :=
      List.set_eq_take_append_cons_drop.trans (if_pos bound)
    have parts : (Race.mk handle (race.threads.set thread left) log).cast =
        before.zipIdx.flatMap named ++
          (left.map (thread, ·) ++ (behind.zipIdx (thread + 1)).flatMap named) := by
      simp [cast, split, List.zipIdx_append, List.zipIdx_cons, length, named]
    rw [parts]
    exact List.perm_append_comm_assoc _ _ _

theorem cast_set (found : race.threads[thread]? = some activities) :
    race.threads.set thread activities = race.threads := by
  obtain ⟨_, rfl⟩ := List.getElem?_eq_some_iff.1 found
  exact List.set_getElem_self _

/-- What a move can be, where nobody has anything open above an access. -/
theorem step_cases (quiet : race.Quiet) (move : Nat × Choice Memory) :
    race.step move = race ∨
      ((race.step move).Quiet ∧ ∃ old new entry others,
        Moved race (race.step move) move.1 old new entry others) := by
  obtain ⟨thread, choice⟩ := move
  unfold step
  split
  case h_1 => exact .inl rfl
  case h_2 activities found =>
    split
    case h_1 => exact .inl rfl
    case h_2 handle left entry turned =>
      right
      obtain ⟨old, new, rest, rfl, rfl, turns, user⟩ := Handle.turns_of_turn turned
      obtain ⟨others, elsewhere, cast⟩ := exists_cast found
      have member := List.mem_of_getElem? found
      -- Below what the move is about there is code of the user's only.
      have below : ∀ activity ∈ rest, activity.isUser := by
        cases old with
        | some activity => exact quiet _ member
        | none =>
            cases rest with
            | nil => nofun
            | cons activity rest =>
                exact List.forall_mem_cons.2 ⟨user rfl, quiet _ member⟩
      constructor
      · intro activities listed activity inside
        rcases List.mem_or_eq_of_mem_set listed with kept | rfl
        · exact quiet activities kept activity inside
        · refine below activity ?_
          cases new with
          | some => exact inside
          | none => exact List.mem_of_mem_tail inside
      · refine ⟨old, new, entry, rest.map (thread, ·) ++ others, turns, ?_, ?_, ?_, rfl, ?_⟩
        · have before := cast race.handle (old.toList ++ rest) race.log
          rw [cast_set found, List.map_append, List.append_assoc] at before
          exact before
        · have now := cast handle (new.toList ++ rest) (race.log ++ entry.toList)
          rw [List.map_append, List.append_assoc] at now
          exact now
        · intro member listed same
          rcases List.mem_append.1 listed with listed | listed
          · obtain ⟨activity, inside, rfl⟩ := List.mem_map.1 listed
            exact below activity inside
          · exact absurd same (elsewhere member listed)
        · rintro activity ⟨⟩
          exact ⟨rest, found⟩

end

/-- A handle shows the cells of a run, as long as their epochs do not wrap. -/
structure Handle.Shows (handle : Handle Memory) (cells : Cells Memory) : Prop where
  epoch : handle.word.epoch.toNat = cells.epoch
  phase : handle.word.phase = cells.word
  saved : handle.saved = cells.saved
  parked : handle.parked = cells.parked
  registrar : handle.registrar = cells.registrar

/-- What a thread that nobody interrupts makes of an activity in so many accesses, until it is over
or in code of the user's. -/
def Handle.finish (thread : Nat) :
    Nat → Handle Memory → Activity Memory →
      Handle Memory × Option (Activity Memory) × List (Entry Memory)
  | 0, handle, activity => (handle, some activity, [])
  | count + 1, handle, activity =>
      if activity.isUser then (handle, some activity, [])
      else
        let effect := handle.proceed thread activity
        match effect.activity with
        | none => (effect.handle, none, effect.entry.toList)
        | some next =>
            let (handle, left, log) := effect.handle.finish thread count next
            (handle, left, effect.entry.toList ++ log)

section

variable {handle : Handle Memory} {cells : Cells Memory} {thread : Nat} {token : Token}
  {pending : Stack (Frame Memory)} {outcome : Outcome Value}

/-- Uninterrupted, to arm a boundary is one move on the cells. -/
theorem Handle.Shows.arm (shows : handle.Shows cells) (bound : cells.epoch + 1 < 2 ^ 62) :
    let (after, activity, _) := handle.finish thread 5 (.arming pending token .setToken)
    after.Shows (cells.arm thread pending) ∧
      activity = some (.registering (handle.word.epoch + 1) token) := by
  refine ⟨⟨?_, rfl, rfl, shows.parked, rfl⟩, rfl⟩
  have next : (handle.word.epoch + 1).toNat = cells.epoch + 1 := by
    rw [BitVec.toNat_add, shows.epoch]
    exact Nat.mod_eq_of_lt bound
  exact next

/-- So is to complete one: the run is resumed with the stack that was saved, or nothing is left to
do. -/
theorem Handle.Shows.fire (shows : handle.Shows cells) (epoch : Epoch) :
    let (after, activity, log) :=
      handle.finish thread 5 (.firing epoch outcome (some outcome) .readWord)
    let (resumed, fired) := cells.fire epoch.toNat thread outcome
    after.Shows fired ∧
      match resumed with
      | none => activity = none
      | some pending =>
          activity = some .running ∧ .wentOn epoch thread outcome pending handle.token ∈ log := by
  obtain ⟨number, phase, saved, parked, registrar⟩ := cells
  obtain ⟨rfl, rfl, rfl, rfl, rfl⟩ := shows
  obtain ⟨⟨current, phase⟩, token, saved, parked, registrar⟩ := handle
  by_cases same : current = epoch
  · cases phase with
    | idle | parked | waiting =>
        simp [finish, proceed, proceedFiring, Activity.isUser, Packed.isArmed, Cells.fire, same]
        constructor <;> rfl
    | registering =>
        by_cases here : registrar = some thread <;>
          simp [finish, proceed, proceedFiring, Activity.isUser, Packed.isArmed, Cells.fire, same, here]
        all_goals constructor <;> rfl
  · have other : current.toNat ≠ epoch.toNat := fun equal => same (BitVec.eq_of_toNat_eq equal)
    simp [finish, proceed, proceedFiring, Activity.isUser, Cells.fire, same, other]
    constructor <;> rfl

theorem Handle.Shows.detach (shows : handle.Shows cells) (epoch : Epoch) :
    let (after, activity, log) := handle.finish thread 4 (.detaching epoch token .startWaiting)
    let (goingOn, detached) := cells.detach epoch.toNat
    after.Shows detached ∧
      match goingOn with
      | none => activity = none
      | some (outcome, pending) =>
          activity = some .running ∧ .wentOn epoch thread outcome pending token ∈ log := by
  obtain ⟨number, phase, saved, parked, registrar⟩ := cells
  obtain ⟨rfl, rfl, rfl, rfl, rfl⟩ := shows
  obtain ⟨⟨current, phase⟩, token, saved, parked, registrar⟩ := handle
  by_cases same : current = epoch
  · cases phase with
    | idle | registering | waiting =>
        simp [finish, proceed, proceedDetaching, Activity.isUser, Cells.detach, same]
        constructor <;> rfl
    | parked =>
        cases parked <;>
          simp [finish, proceed, proceedDetaching, Activity.isUser, Cells.detach, same]
        all_goals constructor <;> rfl
  · have other : current.toNat ≠ epoch.toNat := fun equal => same (BitVec.eq_of_toNat_eq equal)
    simp [finish, proceed, proceedDetaching, Activity.isUser, Cells.detach, same, other]
    constructor <;> rfl

end

end Race

end Trampoline
