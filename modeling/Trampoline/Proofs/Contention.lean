import Mathlib.Data.List.Nodup
import Trampoline.Proofs.Racing

/-!
What holds of a handle however its threads race.
-/

namespace Trampoline.Race

variable {Memory : Type}

namespace Activity

/-- The arming that a registration belongs to, until the thread has left it. -/
def registration? : Activity Memory → Option Epoch
  | .registering epoch _ | .detaching epoch _ .startWaiting | .detaching epoch _ .clearWord =>
      some epoch
  | _ => none

/-- The arming whose accepted completion a thread is about to go on with. -/
def carried? : Activity Memory → Option Epoch
  | .detaching epoch _ .takeParked | .detaching epoch _ (.takeStack _)
  | .firing epoch _ _ .takeStack | .firing epoch _ _ (.readToken _ _) => some epoch
  | _ => none

def owns : Activity Memory → Bool
  | .running | .arming _ _ _ => true
  | .detaching _ _ .takeParked | .detaching _ _ (.takeStack _)
  | .firing _ _ _ .takeStack | .firing _ _ _ (.readToken _ _) => true
  | _ => false

end Activity

namespace Entry

def armed? : Entry Memory → Option Epoch
  | .armed epoch _ _ _ => some epoch
  | _ => none

def accepted? : Entry Memory → Option Epoch
  | .parked epoch _ _ | .claimed epoch _ _ => some epoch
  | _ => none

def missed? : Entry Memory → Option Epoch
  | .missed epoch _ => some epoch
  | _ => none

def wentOn? : Entry Memory → Option Epoch
  | .wentOn epoch _ _ _ _ => some epoch
  | _ => none

def told? : Entry Memory → Option (Outcome Value)
  | .told outcome => some outcome
  | _ => none

end Entry

def armings (log : List (Entry Memory)) : List Epoch :=
  log.filterMap Entry.armed?

def acceptances (log : List (Entry Memory)) : List Epoch :=
  log.filterMap Entry.accepted?

def misses (log : List (Entry Memory)) : List Epoch :=
  log.filterMap Entry.missed?

def goings (log : List (Entry Memory)) : List Epoch :=
  log.filterMap Entry.wentOn?

def tellings (log : List (Entry Memory)) : List (Outcome Value) :=
  log.filterMap Entry.told?

def owners (cast : List (Nat × Activity Memory)) : Nat :=
  cast.countP fun member => member.2.owns

def registrations (cast : List (Nat × Activity Memory)) : List Epoch :=
  cast.filterMap fun member => member.2.registration?

def carried (cast : List (Nat × Activity Memory)) : List Epoch :=
  cast.filterMap fun member => member.2.carried?

namespace Packed

def keeps (word : Packed) : Nat :=
  if word.phase = .idle then 0 else 1

def awaits (word : Packed) (epoch : Epoch) : Nat :=
  if word.epoch = epoch ∧ word.isArmed then 1 else 0

def parks (word : Packed) (epoch : Epoch) : Nat :=
  if word = { epoch, phase := .parked } then 1 else 0

end Packed

/-- What an activity on a thread can rely on, whatever other threads do. -/
def Activity.Fits (handle : Handle Memory) (log : List (Entry Memory)) (thread : Nat) :
    Activity Memory → Prop
  | .running | .arming _ _ .setToken => True
  | .arming _ token .saveStack => handle.token = token
  | .arming pending token .setRegistrar => handle.token = token ∧ handle.saved = pending
  | .arming pending token .readEpoch =>
      handle.token = token ∧ handle.saved = pending ∧ handle.registrar = some thread
  | .arming pending token (.writeWord epoch) =>
      handle.token = token ∧ handle.saved = pending ∧ handle.registrar = some thread ∧
        epoch = handle.word.epoch + 1
  | .registering epoch token | .detaching epoch token .startWaiting =>
      (∃ pending, .armed epoch thread pending token ∈ log) ∧
        (handle.word.epoch = epoch → handle.word.phase ≠ .idle → handle.token = token)
  | .detaching epoch token .clearWord =>
      (∃ pending, .armed epoch thread pending token ∈ log) ∧ handle.token = token ∧
        handle.word = { epoch, phase := .parked }
  | .detaching epoch token .takeParked | .detaching epoch token (.takeStack _) =>
      .armed epoch thread handle.saved token ∈ log
  | .firing _ _ _ .readWord | .firing _ _ _ .takeBack => True
  | .firing epoch _ _ .readRegistrar =>
      epoch ∈ armings log ∧ (handle.registrar = some thread → handle.word.epoch = epoch)
  | .firing epoch _ _ .park | .firing epoch _ _ .announceParked =>
      ∃ pending token, .armed epoch thread pending token ∈ log
  | .firing epoch _ _ (.claim phase) =>
      epoch ∈ armings log ∧ (phase = .waiting ∨ phase = .registering ∧
        (handle.word = { epoch, phase := .registering } → handle.registrar ≠ some thread))
  | .firing epoch _ _ .takeStack =>
      ∃ registrar, .armed epoch registrar handle.saved handle.token ∈ log
  | .firing epoch _ _ (.readToken _ pending) =>
      ∃ registrar, .armed epoch registrar pending handle.token ∈ log

/-- What the cells, the activities and what has been told say of each other. -/
structure Sound (handle : Handle Memory) (cast : List (Nat × Activity Memory))
    (log : List (Entry Memory)) : Prop where
  numbered : (armings log).map BitVec.toNat = List.range' 1 (armings log).length
  counted : handle.word.epoch.toNat = (armings log).length
  single :
    (tellings log).length + (misses log).length + owners cast + handle.word.keeps = 1
  registered : ∀ epoch, (registrations cast).count epoch ≤ 1
  attended : handle.word.phase = .registering ∨ handle.word.phase = .parked →
    handle.word.epoch ∈ registrations cast
  settled : ∀ epoch,
    (acceptances log).count epoch + handle.word.awaits epoch = (armings log).count epoch
  carrying : ∀ epoch, (goings log).count epoch + (misses log).count epoch +
    (carried cast).count epoch + handle.word.parks epoch = (acceptances log).count epoch
  keeping : handle.word.phase ≠ .idle → ∃ thread, handle.registrar = some thread ∧
    .armed handle.word.epoch thread handle.saved handle.token ∈ log
  known : ∀ thread, handle.registrar = some thread →
    (∃ pending token, .armed handle.word.epoch thread pending token ∈ log) ∨
      ∃ pending token point, (thread, .arming pending token point) ∈ cast
  fits : ∀ member ∈ cast, member.2.Fits handle log member.1

structure Recorded (handle : Handle Memory) (log : List (Entry Memory)) : Prop where
  /-- A run goes on with the stack and the token of the arming. -/
  wentOn : ∀ {epoch thread outcome pending token},
    .wentOn epoch thread outcome pending token ∈ log →
      ∃ registrar, .armed epoch registrar pending token ∈ log
  /-- What is parked was accepted on the thread that armed, before the registration returned. -/
  parked : ∀ {epoch thread outcome}, .parked epoch thread outcome ∈ log →
    (∃ pending token, .armed epoch thread pending token ∈ log) ∧ .waiting epoch ∉ log
  /-- What is claimed was accepted on another thread, or afterwards. -/
  claimed : ∀ {epoch thread outcome}, .claimed epoch thread outcome ∈ log →
    .waiting epoch ∈ log ∨ ∃ registrar pending token,
      registrar ≠ thread ∧ .armed epoch registrar pending token ∈ log
  waits : handle.word.phase = .waiting → .waiting handle.word.epoch ∈ log
  waited : ∀ {epoch}, .waiting epoch ∈ log →
    epoch ∈ armings log ∧ handle.word ≠ { epoch, phase := .registering }
  /-- A completion is ignored only once that of the arming has been accepted. -/
  ignored : ∀ {before epoch thread rest}, log = before ++ .ignored epoch thread :: rest →
    (acceptances before).count epoch = (armings before).count epoch

section

variable {handle after : Handle Memory} {thread : Nat} {old new : Option (Activity Memory)}
  {entry : Option (Entry Memory)} {others : List (Nat × Activity Memory)}
  {log : List (Entry Memory)}

theorem Sound.perm {cast more : List (Nat × Activity Memory)} (sound : Sound handle cast log)
    (same : cast.Perm more) : Sound handle more log where
  numbered := sound.numbered
  counted := sound.counted
  single := by
    rw [owners, ← same.countP_eq]
    exact sound.single
  registered epoch := by
    rw [registrations, ← (same.filterMap _).count_eq]
    exact sound.registered epoch
  attended keeps := (same.filterMap _).mem_iff.1 (sound.attended keeps)
  settled := sound.settled
  carrying epoch := by
    rw [carried, ← (same.filterMap _).count_eq]
    exact sound.carrying epoch
  keeping := sound.keeping
  known thread here := by
    rcases sound.known thread here with armed | ⟨pending, token, point, member⟩
    · exact .inl armed
    · exact .inr ⟨pending, token, point, same.mem_iff.1 member⟩
  fits member listed := sound.fits member (same.mem_iff.2 listed)

theorem Packed.keeps_eq_zero_iff {word : Packed} : word.keeps = 0 ↔ word.phase = .idle := by
  unfold keeps
  split <;> simp_all

/-- While an activity has the run in its hands, the cells do not keep it and no other has it. -/
theorem Sound.alone {activity : Activity Memory}
    (sound : Sound handle ((thread, activity) :: others) log) (owns : activity.owns) :
    handle.word.phase = .idle ∧ owners others = 0 := by
  have single := sound.single
  rw [owners, List.countP_cons_of_pos (by exact owns)] at single
  constructor
  · exact Packed.keeps_eq_zero_iff.1 (by omega)
  · rw [owners]
    omega

namespace Packed

variable {word : Packed}

theorem awaits_of_isArmed (armed : word.isArmed = true) (epoch : Epoch) :
    word.awaits epoch = [word.epoch].count epoch := by
  rw [awaits, List.count_singleton]
  simp [armed]

theorem awaits_of_unarmed (unarmed : word.isArmed = false) (epoch : Epoch) :
    word.awaits epoch = 0 := by
  simp [awaits, unarmed]

theorem isArmed_of_idle (idle : word.phase = .idle) : word.isArmed = false := by
  rw [isArmed, idle]

theorem parks_parked (number epoch : Epoch) :
    ({ epoch := number, phase := .parked } : Packed).parks epoch = [number].count epoch := by
  rw [parks, List.count_singleton]
  simp

theorem parks_of_unparked (word : Packed) (unparked : word.phase ≠ .parked) (epoch : Epoch) :
    word.parks epoch = 0 :=
  if_neg fun same => unparked (congrArg phase same)

end Packed

/-- A move passes the run on, tells its end or misses it. -/
theorem Turns.passes (turns : Turns handle thread old after new entry)
    (fits : ∀ activity ∈ old, activity.Fits handle log thread)
    (idle : ∀ activity ∈ old, activity.owns → handle.word.phase = .idle) :
    (tellings entry.toList).length + (misses entry.toList).length + new.toList.countP Activity.owns +
      after.word.keeps = old.toList.countP Activity.owns + handle.word.keeps := by
  cases turns
  case writeWord =>
    rw [Packed.keeps_eq_zero_iff.2 (idle _ rfl rfl)]
    rfl
  case startWaiting registering | announceParked registering =>
    rw [registering]
    rfl
  case clearWord =>
    rw [(fits _ rfl).2.2]
    rfl
  case claim same =>
    obtain ⟨_, rfl | ⟨rfl, _⟩⟩ := fits _ rfl <;> rw [same] <;> rfl
  -- All other moves leave the word alone.
  all_goals rfl

/-- An arming can be completed until its completion is accepted. -/
theorem Turns.settles (turns : Turns handle thread old after new entry)
    (fits : ∀ activity ∈ old, activity.Fits handle log thread)
    (idle : ∀ activity ∈ old, activity.owns → handle.word.phase = .idle) (epoch : Epoch) :
    (acceptances entry.toList).count epoch + after.word.awaits epoch =
      (armings entry.toList).count epoch + handle.word.awaits epoch := by
  cases turns
  case writeWord =>
    rw [Packed.awaits_of_unarmed (Packed.isArmed_of_idle (idle _ rfl rfl)),
      Packed.awaits_of_isArmed rfl]
    exact Nat.zero_add _
  case startWaiting registering =>
    rw [registering, Packed.awaits_of_isArmed rfl, Packed.awaits_of_isArmed rfl]
    rfl
  case clearWord =>
    rw [(fits _ rfl).2.2, Packed.awaits_of_unarmed rfl, Packed.awaits_of_unarmed rfl]
    rfl
  case announceParked registering =>
    rw [registering, Packed.awaits_of_unarmed rfl, Packed.awaits_of_isArmed rfl]
    exact (Nat.zero_add _).symm
  case claim same =>
    have armed : handle.word.isArmed = true := by
      obtain ⟨_, rfl | ⟨rfl, _⟩⟩ := fits _ rfl <;> rw [same] <;> rfl
    rw [Packed.awaits_of_isArmed armed, Packed.awaits_of_unarmed rfl, same]
    exact (Nat.zero_add _).symm
  all_goals rfl

/-- What is accepted is parked or carried until the run goes on with it, or it is missed. -/
theorem Turns.carries (turns : Turns handle thread old after new entry)
    (fits : ∀ activity ∈ old, activity.Fits handle log thread)
    (idle : ∀ activity ∈ old, activity.owns → handle.word.phase = .idle) (epoch : Epoch) :
    (goings entry.toList).count epoch + (misses entry.toList).count epoch +
        (new.toList.filterMap Activity.carried?).count epoch + after.word.parks epoch =
      (acceptances entry.toList).count epoch +
        (old.toList.filterMap Activity.carried?).count epoch + handle.word.parks epoch := by
  cases turns
  case writeWord =>
    have unparked : handle.word.phase ≠ .parked := by
      rw [idle _ rfl rfl]
      nofun
    rw [Packed.parks_of_unparked _ unparked, Packed.parks_of_unparked ⟨_, .registering⟩ nofun]
    rfl
  case startWaiting registering =>
    rw [registering, Packed.parks_of_unparked ⟨_, .registering⟩ nofun,
      Packed.parks_of_unparked ⟨_, .waiting⟩ nofun]
    rfl
  case clearWord =>
    rw [(fits _ rfl).2.2, Packed.parks_parked, Packed.parks_of_unparked ⟨_, .idle⟩ nofun]
    rfl
  case announceParked registering =>
    rw [registering, Packed.parks_parked, Packed.parks_of_unparked ⟨_, .registering⟩ nofun]
    exact Nat.zero_add _
  case claim same =>
    have unparked : handle.word.phase ≠ .parked := by
      obtain ⟨_, rfl | ⟨rfl, _⟩⟩ := fits _ rfl <;> rw [same] <;> nofun
    rw [Packed.parks_of_unparked _ unparked, Packed.parks_of_unparked ⟨_, .idle⟩ nofun]
    exact Nat.zero_add _
  case goOnInline | goOn =>
    exact congrArg (· + handle.word.parks epoch) (Nat.zero_add _).symm
  all_goals rfl

/-- Whoever does not have the run in its hands leaves alone what belongs to it, and changes the word
only where the cells keep the run. -/
theorem Turns.frame (turns : Turns handle thread old after new entry)
    (fits : ∀ activity ∈ old, activity.Fits handle log thread)
    (other : ∀ activity ∈ old, activity.owns = false) :
    after.token = handle.token ∧ after.saved = handle.saved ∧
      after.registrar = handle.registrar ∧ after.word.epoch = handle.word.epoch ∧
      (after.word = handle.word ∨
        handle.word.phase ≠ .idle ∧ after.word.phase ≠ .registering) := by
  cases turns
  case claim same =>
    obtain ⟨_, rfl | ⟨rfl, _⟩⟩ := fits _ rfl <;> simp [same]
  all_goals simp_all [Activity.owns, Activity.Fits]

/-- Whoever has it changes the word only to say that the next boundary is armed. -/
theorem Turns.word_of_owns {activity : Activity Memory}
    (turns : Turns handle thread (some activity) after new entry) (owns : activity.owns) :
    after.word = handle.word ∨ ∃ pending token epoch,
      activity = .arming pending token (.writeWord epoch) ∧
        after.word = { epoch, phase := .registering } := by
  cases turns
  case writeWord => exact .inr ⟨_, _, _, rfl, rfl⟩
  case startWaiting | clearWord | announceParked | claim => cases owns
  all_goals exact .inl rfl

theorem Sound.fits_old (sound : Sound handle (old.toList.map (thread, ·) ++ others) log) :
    ∀ activity ∈ old, activity.Fits handle log thread := by
  rintro activity ⟨⟩
  exact sound.fits _ (.head _)

theorem Sound.idle_old (sound : Sound handle (old.toList.map (thread, ·) ++ others) log) :
    ∀ activity ∈ old, activity.owns → handle.word.phase = .idle := by
  rintro activity ⟨⟩ owns
  exact (sound.alone owns).1

theorem Sound.unowned_old (sound : Sound handle (old.toList.map (thread, ·) ++ others) log)
    (busy : handle.word.phase ≠ .idle) : ∀ activity ∈ old, activity.owns = false := by
  intro activity mover
  exact Bool.eq_false_iff.2 fun owns => busy (sound.idle_old activity mover owns)

theorem mem_armings {epoch : Epoch} {pending : Stack (Frame Memory)} {token : Token}
    (listed : .armed epoch thread pending token ∈ log) : epoch ∈ armings log :=
  List.mem_filterMap.2 ⟨_, listed, rfl⟩

theorem Sound.nodup {cast : List (Nat × Activity Memory)} (sound : Sound handle cast log) :
    (armings log).Nodup := by
  have nodup : ((armings log).map BitVec.toNat).Nodup := by
    rw [sound.numbered]
    exact List.nodup_range'
  exact (List.pairwise_map.1 nodup).imp fun differ same => differ (congrArg BitVec.toNat same)

theorem Sound.armed_unique {cast : List (Nat × Activity Memory)} (sound : Sound handle cast log)
    {epoch : Epoch} {other : Nat} {pending more : Stack (Frame Memory)} {token next : Token}
    (armed : .armed epoch thread pending token ∈ log) (again : .armed epoch other more next ∈ log) :
    thread = other ∧ pending = more ∧ token = next := by
  have apart := List.pairwise_iff_getElem.1 (List.pairwise_filterMap.1 sound.nodup)
  obtain ⟨i, inside, first⟩ := List.getElem_of_mem armed
  obtain ⟨j, here, second⟩ := List.getElem_of_mem again
  rcases Nat.lt_trichotomy i j with before | rfl | behind
  · exact absurd rfl (apart i j inside here before _ (by rw [first]; rfl) _ (by rw [second]; rfl))
  · rw [first] at second
    cases second
    exact ⟨rfl, rfl, rfl⟩
  · exact absurd rfl (apart j i here inside behind _ (by rw [second]; rfl) _ (by rw [first]; rfl))

theorem armings_append (log more : List (Entry Memory)) :
    armings (log ++ more) = armings log ++ armings more :=
  List.filterMap_append

theorem mem_armings_append {epoch : Epoch} {log : List (Entry Memory)}
    (listed : epoch ∈ armings log) (more : List (Entry Memory)) : epoch ∈ armings (log ++ more) := by
  rw [armings_append]
  exact List.mem_append_left _ listed

/-- What an activity relies on is kept when another thread moves that has the run in its hands. -/
theorem Activity.Fits.keep_of_owner {activity mover : Activity Memory} {other : Nat}
    (fits : activity.Fits handle log other) (turns : Turns handle thread (some mover) after new entry)
    (moverFits : mover.Fits handle log thread) (owns : mover.owns)
    (idle : handle.word.phase = .idle) (unowned : activity.owns = false)
    (user : other = thread → activity.isUser) (fresh : handle.word.epoch + 1 ∉ armings log) :
    activity.Fits after (log ++ entry.toList) other := by
  have grows {told : Entry Memory} (listed : told ∈ log) : told ∈ log ++ entry.toList :=
    List.mem_append_left _ listed
  -- No arming of the past is kept by the cells now.
  have past (epoch : Epoch) (listed : epoch ∈ armings log) (same : after.word.epoch = epoch) :
      after.word.phase = .idle := by
    rcases turns.word_of_owns owns with kept | ⟨pending, token, next, rfl, armed⟩
    · rw [kept, idle]
    · obtain ⟨_, _, _, rfl⟩ := moverFits
      rw [armed] at same
      cases same
      exact absurd listed fresh
  cases activity with
  | running => trivial
  | arming pending token point => cases unowned
  | registering epoch token =>
      obtain ⟨⟨pending, armed⟩, _⟩ := fits
      exact ⟨⟨pending, grows armed⟩, fun same busy => absurd (past _ (mem_armings armed) same) busy⟩
  | detaching epoch token point =>
      cases point with
      | startWaiting =>
          obtain ⟨⟨pending, armed⟩, _⟩ := fits
          exact ⟨⟨pending, grows armed⟩,
            fun same busy => absurd (past _ (mem_armings armed) same) busy⟩
      | clearWord =>
          obtain ⟨_, _, parked⟩ := fits
          rw [parked] at idle
          cases idle
      | takeParked | takeStack => cases unowned
  | firing epoch given held point =>
      cases point with
      | readWord | takeBack => trivial
      | readRegistrar =>
          refine ⟨mem_armings_append fits.1 _, fun here => ?_⟩
          have elsewhere : other ≠ thread := fun same => by cases user same
          cases turns
          case setRegistrar =>
            cases here
            exact absurd rfl elsewhere
          case writeWord =>
            obtain ⟨_, _, registrar, _⟩ := moverFits
            cases registrar.symm.trans here
            exact absurd rfl elsewhere
          all_goals first | exact fits.2 here | cases owns
      | park | announceParked =>
          obtain ⟨pending, token, armed⟩ := fits
          exact ⟨pending, token, grows armed⟩
      | claim phase =>
          refine ⟨mem_armings_append fits.1 _, fits.2.imp_right fun registering => ⟨registering.1, ?_⟩⟩
          intro same
          have idle := past epoch fits.1 (congrArg Packed.epoch same)
          rw [same] at idle
          cases idle
      | takeStack | readToken => cases unowned

theorem Activity.Fits.keep_of_frame {activity : Activity Memory} {other : Nat}
    (fits : activity.Fits handle log other)
    (frame : after.token = handle.token ∧ after.saved = handle.saved ∧
      after.registrar = handle.registrar ∧ after.word.epoch = handle.word.epoch ∧
      (after.word = handle.word ∨
        handle.word.phase ≠ .idle ∧ after.word.phase ≠ .registering))
    (parked : ∀ epoch token, activity = .detaching epoch token .clearWord →
      after.word = { epoch, phase := .parked }) :
    activity.Fits after (log ++ entry.toList) other := by
  have grows {told : Entry Memory} (listed : told ∈ log) : told ∈ log ++ entry.toList :=
    List.mem_append_left _ listed
  obtain ⟨token, saved, registrar, epochs, word⟩ := frame
  have busy (left : after.word.phase ≠ .idle) : handle.word.phase ≠ .idle := by
    rcases word with same | changed
    · rwa [same] at left
    · exact changed.1
  cases activity with
  | running => trivial
  | arming pending next point =>
      cases point <;> simp_all [Fits]
  | registering epoch next =>
      obtain ⟨⟨pending, armed⟩, kept⟩ := fits
      refine ⟨⟨pending, grows armed⟩, fun same left => ?_⟩
      rw [token]
      exact kept (epochs ▸ same) (busy left)
  | detaching epoch next point =>
      cases point with
      | startWaiting =>
          obtain ⟨⟨pending, armed⟩, kept⟩ := fits
          refine ⟨⟨pending, grows armed⟩, fun same left => ?_⟩
          rw [token]
          exact kept (epochs ▸ same) (busy left)
      | clearWord =>
          obtain ⟨⟨pending, armed⟩, kept, _⟩ := fits
          exact ⟨⟨pending, grows armed⟩, token.trans kept, parked epoch next rfl⟩
      | takeParked | takeStack =>
          refine grows ?_
          rw [saved]
          exact fits
  | firing epoch given held point =>
      cases point with
      | readWord | takeBack => trivial
      | readRegistrar =>
          refine ⟨mem_armings_append fits.1 _, fun here => ?_⟩
          rw [epochs]
          exact fits.2 (registrar ▸ here)
      | park | announceParked =>
          obtain ⟨pending, next, armed⟩ := fits
          exact ⟨pending, next, grows armed⟩
      | claim phase =>
          refine ⟨mem_armings_append fits.1 _, fits.2.imp_right fun registering => ⟨registering.1, ?_⟩⟩
          intro same
          rcases word with kept | changed
          · rw [registrar]
            exact registering.2 (kept ▸ same)
          · exact absurd (congrArg Packed.phase same) changed.2
      | takeStack =>
          obtain ⟨registering, armed⟩ := fits
          refine ⟨registering, grows ?_⟩
          rw [saved, token]
          exact armed
      | readToken outcome pending =>
          obtain ⟨registering, armed⟩ := fits
          refine ⟨registering, grows ?_⟩
          rw [token]
          exact armed

theorem Sound.fits_new (sound : Sound handle (old.toList.map (thread, ·) ++ others) log)
    (turns : Turns handle thread old after new entry)
    (quiet : ∀ member ∈ others, member.1 = thread → member.2.isUser) :
    ∀ activity ∈ new, activity.Fits after (log ++ entry.toList) thread := by
  have fits := sound.fits_old
  rintro activity ⟨⟩
  have kept {epoch : Epoch} {phase : Cells.Word} (same : handle.word = { epoch, phase })
      (busy : phase ≠ .idle) : ∃ registrar, handle.registrar = some registrar ∧
        .armed epoch registrar handle.saved handle.token ∈ log := by
    have keeping := sound.keeping
    rw [same] at keeping
    exact keeping busy
  cases turns with
  | setToken => exact rfl
  | saveStack => exact ⟨fits _ rfl, rfl⟩
  | setRegistrar => exact ⟨(fits _ rfl).1, (fits _ rfl).2, rfl⟩
  | readEpoch => exact ⟨(fits _ rfl).1, (fits _ rfl).2.1, (fits _ rfl).2.2, rfl⟩
  | writeWord => exact ⟨⟨_, List.mem_append_right _ (.head _)⟩, fun _ _ => (fits _ rfl).1⟩
  | findParked parked =>
      obtain ⟨armed, token⟩ := fits _ rfl
      rw [parked] at token
      exact ⟨by simpa using armed, token rfl nofun, parked⟩
  | clearWord =>
      obtain ⟨⟨pending, armed⟩, token, parked⟩ := fits _ rfl
      obtain ⟨registrar, _, keeps⟩ := kept parked nofun
      obtain ⟨rfl, rfl, rfl⟩ := sound.armed_unique armed keeps
      exact List.mem_append_left _ armed
  | takeParked => exact List.mem_append_left _ (fits _ rfl)
  | seeRegistering registering =>
      obtain ⟨_, _, keeps⟩ := kept registering nofun
      exact ⟨by simpa using mem_armings keeps, fun _ => congrArg Packed.epoch registering⟩
  | seeWaiting waiting =>
      obtain ⟨_, _, keeps⟩ := kept waiting nofun
      exact ⟨by simpa using mem_armings keeps, .inl rfl⟩
  | isRegistrar here =>
      rcases sound.known thread here with ⟨pending, token, armed⟩ | ⟨pending, token, point, member⟩
      · rw [(fits _ rfl).2 here] at armed
        exact ⟨pending, token, List.mem_append_left _ armed⟩
      · rcases List.mem_cons.1 member with same | member
        · cases same
        · cases quiet _ member rfl
  | isOther elsewhere => exact ⟨by simpa using (fits _ rfl).1, .inr ⟨rfl, fun _ => elsewhere⟩⟩
  | park =>
      obtain ⟨pending, token, armed⟩ := fits _ rfl
      exact ⟨pending, token, List.mem_append_left _ armed⟩
  | claim same =>
      have busy : handle.word.phase ≠ .idle := by
        rw [same]
        obtain ⟨_, rfl | ⟨rfl, _⟩⟩ := fits _ rfl <;> nofun
      obtain ⟨registrar, _, keeps⟩ := sound.keeping busy
      rw [same] at keeps
      exact ⟨registrar, List.mem_append_left _ keeps⟩
  | takeStack =>
      obtain ⟨registrar, armed⟩ := fits _ rfl
      exact ⟨registrar, List.mem_append_left _ armed⟩
  | leave =>
      obtain ⟨⟨pending, armed⟩, token⟩ := fits _ rfl
      exact ⟨⟨pending, List.mem_append_left _ armed⟩, token⟩
  | goOnInline | failToPark | takeBack | failToClaim | goOn | reach | changeToken | fire => trivial

/-- A move arms the next epoch, or none and leaves the epoch of the word. -/
theorem Turns.arms (turns : Turns handle thread old after new entry)
    (fits : ∀ activity ∈ old, activity.Fits handle log thread) :
    armings entry.toList = [] ∧ after.word.epoch = handle.word.epoch ∨
      armings entry.toList = [handle.word.epoch + 1] ∧
        after.word = { epoch := handle.word.epoch + 1, phase := .registering } := by
  cases turns
  case writeWord =>
    obtain ⟨_, _, _, rfl⟩ := fits _ rfl
    exact .inr ⟨rfl, rfl⟩
  case clearWord =>
    obtain ⟨_, _, parked⟩ := fits _ rfl
    exact .inl ⟨rfl, (congrArg Packed.epoch parked).symm⟩
  case startWaiting same | announceParked same | claim same =>
    exact .inl ⟨rfl, (congrArg Packed.epoch same).symm⟩
  all_goals exact .inl ⟨rfl, rfl⟩

theorem Sound.numbered_turn (sound : Sound handle (old.toList.map (thread, ·) ++ others) log)
    (turns : Turns handle thread old after new entry)
    (bound : (armings (log ++ entry.toList)).length < 2 ^ 62) :
    (armings (log ++ entry.toList)).map BitVec.toNat =
        List.range' 1 (armings (log ++ entry.toList)).length ∧
      after.word.epoch.toNat = (armings (log ++ entry.toList)).length := by
  have numbered := sound.numbered
  have counted := sound.counted
  rw [armings, List.filterMap_append] at bound ⊢
  rcases turns.arms sound.fits_old with ⟨nothing, same⟩ | ⟨next, armed⟩
  · rw [armings] at nothing
    rw [nothing, List.append_nil, same]
    exact ⟨numbered, counted⟩
  · rw [armings] at next
    rw [next, List.length_append, List.length_singleton] at bound ⊢
    have epoch : (handle.word.epoch + 1).toNat = (armings log).length + 1 := by
      rw [BitVec.toNat_add, counted]
      exact Nat.mod_eq_of_lt bound
    rw [List.map_append, List.map_singleton, epoch, List.range'_concat, Nat.mul_comm, armed]
    constructor
    · rw [show List.map BitVec.toNat (List.filterMap Entry.armed? log) = _ from numbered, armings]
      simp [Nat.add_comm]
    · exact epoch

/-- The epoch that comes next has not been armed, even where it wraps. -/
theorem Sound.fresh (sound : Sound handle others log) (bound : (armings log).length < 2 ^ 62) :
    handle.word.epoch + 1 ∉ armings log := by
  intro member
  have listed : (handle.word.epoch + 1).toNat ∈ (armings log).map BitVec.toNat :=
    List.mem_map_of_mem member
  rw [sound.numbered, List.mem_range'_1, BitVec.toNat_add, sound.counted,
    show (1 : Epoch).toNat = 1 from rfl] at listed
  omega

theorem Sound.armed_of_registration {cast : List (Nat × Activity Memory)}
    (sound : Sound handle cast log) {epoch : Epoch} (member : epoch ∈ registrations cast) :
    epoch ∈ armings log := by
  obtain ⟨⟨other, activity⟩, listed, registers⟩ := List.mem_filterMap.1 member
  have fits := sound.fits _ listed
  cases activity with
  | registering =>
      cases registers
      obtain ⟨⟨_, armed⟩, _⟩ := fits
      exact mem_armings armed
  | detaching _ _ point =>
      cases point with
      | startWaiting | clearWord =>
          cases registers
          obtain ⟨⟨_, armed⟩, _⟩ := fits
          exact mem_armings armed
      | takeParked | takeStack => cases registers
  | running | arming | firing => cases registers

theorem Turns.registers (turns : Turns handle thread old after new entry) :
    (∀ epoch, (new.toList.filterMap Activity.registration?).count epoch ≤
      (old.toList.filterMap Activity.registration?).count epoch) ∨
    ∃ pending token epoch, old = some (.arming pending token (.writeWord epoch)) ∧
      new = some (.registering epoch token) := by
  cases turns
  case writeWord => exact .inr ⟨_, _, _, rfl, rfl⟩
  all_goals
    left
    intro epoch
    simp [Activity.registration?, List.filterMap_cons]

theorem registrations_map (activities : List (Activity Memory)) :
    registrations (activities.map (thread, ·) ++ others) =
      activities.filterMap Activity.registration? ++ registrations others := by
  rw [registrations, List.filterMap_append, List.filterMap_map]
  rfl

theorem carried_map (activities : List (Activity Memory)) :
    carried (activities.map (thread, ·) ++ others) =
      activities.filterMap Activity.carried? ++ carried others := by
  rw [carried, List.filterMap_append, List.filterMap_map]
  rfl

theorem owners_map (activities : List (Activity Memory)) :
    owners (activities.map (thread, ·) ++ others) =
      activities.countP Activity.owns + owners others := by
  rw [owners, List.countP_append, List.countP_map]
  rfl

theorem Sound.registered_turn (sound : Sound handle (old.toList.map (thread, ·) ++ others) log)
    (turns : Turns handle thread old after new entry)
    (bound : (armings (log ++ entry.toList)).length < 2 ^ 62) (epoch : Epoch) :
    (registrations (new.toList.map (thread, ·) ++ others)).count epoch ≤ 1 := by
  have registered := sound.registered epoch
  rw [registrations_map, List.count_append] at registered ⊢
  rcases turns.registers with fewer | ⟨pending, token, next, rfl, rfl⟩
  · exact Nat.le_trans (Nat.add_le_add_right (fewer epoch) _) registered
  · by_cases here : next = epoch
    · subst here
      have fits := sound.fits_old _ rfl
      obtain ⟨_, _, _, rfl⟩ := fits
      have nobody : handle.word.epoch + 1 ∉ registrations others := by
        intro member
        refine sound.fresh ?_ (sound.armed_of_registration ?_)
        · cases turns
          rw [armings, List.filterMap_append, List.length_append] at bound
          exact Nat.lt_of_le_of_lt (Nat.le_add_right _ _) bound
        · rw [registrations_map]
          exact List.mem_append_right _ member
      rw [List.count_eq_zero_of_not_mem nobody]
      exact List.count_le_length
    · have elsewhere : (([Activity.registering next token] : List (Activity Memory)).filterMap
          Activity.registration?).count epoch = 0 :=
        List.count_eq_zero_of_not_mem (by simpa [Activity.registration?, eq_comm] using here)
      rw [Option.toList_some, elsewhere]
      omega

theorem Sound.attended_turn (sound : Sound handle (old.toList.map (thread, ·) ++ others) log)
    (turns : Turns handle thread old after new entry)
    (open_ : after.word.phase = .registering ∨ after.word.phase = .parked) :
    after.word.epoch ∈ registrations (new.toList.map (thread, ·) ++ others) := by
  have attended := sound.attended
  rw [registrations_map, List.mem_append] at attended ⊢
  cases turns
  case writeWord => exact .inl (.head _)
  case startWaiting | clearWord | claim => rcases open_ with same | same <;> cases same
  case announceParked same =>
    have here := attended (.inl (congrArg Packed.phase same))
    rw [same] at here
    exact here
  case findClaimed unregistering unparked =>
    refine (attended open_).imp_left fun member => ?_
    exfalso
    have same := List.mem_singleton.1 member
    rcases open_ with phase | phase
    · exact unregistering (by rw [← same, ← phase])
    · exact unparked (by rw [← same, ← phase])
  all_goals simpa [Activity.registration?, List.filterMap_cons] using attended open_

theorem Sound.keeping_turn (sound : Sound handle (old.toList.map (thread, ·) ++ others) log)
    (turns : Turns handle thread old after new entry) (busy : after.word.phase ≠ .idle) :
    ∃ registrar, after.registrar = some registrar ∧
      .armed after.word.epoch registrar after.saved after.token ∈ log ++ entry.toList := by
  have fits := sound.fits_old
  by_cases owner : ∃ mover ∈ old, mover.owns
  · obtain ⟨mover, ⟨⟩, owns⟩ := owner
    have idle := sound.idle_old _ rfl owns
    rcases turns.word_of_owns owns with same | ⟨_, _, _, rfl, _⟩
    · rw [same] at busy
      exact absurd idle busy
    · obtain ⟨rfl, rfl, registrar, _⟩ := fits _ rfl
      cases turns
      exact ⟨thread, registrar, List.mem_append_right _ (.head _)⟩
  · have other : ∀ activity ∈ old, activity.owns = false :=
      fun activity here => Bool.eq_false_iff.2 fun owns => owner ⟨activity, here, owns⟩
    obtain ⟨token, saved, registrar, epoch, word⟩ := turns.frame fits other
    have was : handle.word.phase ≠ .idle := by
      rcases word with same | changed
      · rwa [same] at busy
      · exact changed.1
    obtain ⟨thread, here, armed⟩ := sound.keeping was
    rw [token, saved, registrar, epoch]
    exact ⟨thread, here, List.mem_append_left _ armed⟩

theorem Sound.known_turn (sound : Sound handle (old.toList.map (thread, ·) ++ others) log)
    (turns : Turns handle thread old after new entry) {registrar : Nat}
    (here : after.registrar = some registrar) :
    (∃ pending token, .armed after.word.epoch registrar pending token ∈ log ++ entry.toList) ∨
      ∃ pending token point,
        (registrar, .arming pending token point) ∈ new.toList.map (thread, ·) ++ others := by
  have fits := sound.fits_old
  have known := sound.known registrar
  have kept (arms : ∀ pending token point, old ≠ some (.arming pending token point))
      (same : after.registrar = handle.registrar)
      (epoch : after.word.epoch = handle.word.epoch) :
      (∃ pending token, .armed after.word.epoch registrar pending token ∈ log ++ entry.toList) ∨
        ∃ pending token point,
          (registrar, .arming pending token point) ∈ new.toList.map (thread, ·) ++ others := by
    rw [epoch]
    refine (known (same ▸ here)).imp ?_ ?_
    · rintro ⟨pending, token, armed⟩
      exact ⟨pending, token, List.mem_append_left _ armed⟩
    · rintro ⟨pending, token, point, member⟩
      refine ⟨pending, token, point, List.mem_append_right _ ?_⟩
      refine (List.mem_append.1 member).resolve_left fun moved => ?_
      obtain ⟨activity, mover, same⟩ := List.mem_map.1 moved
      cases same
      exact arms _ _ _ (Option.mem_toList.1 mover)
  cases turns
  case setRegistrar =>
    cases here
    exact .inr ⟨_, _, _, .head _⟩
  case writeWord =>
    obtain ⟨_, _, same, _⟩ := fits _ rfl
    cases same.symm.trans here
    exact .inl ⟨_, _, List.mem_append_right _ (.head _)⟩
  case setToken | saveStack | readEpoch =>
    refine (known here).imp ?_ ?_
    · rintro ⟨pending, token, armed⟩
      exact ⟨pending, token, List.mem_append_left _ armed⟩
    · rintro ⟨pending, token, point, member⟩
      rcases List.mem_cons.1 member with same | member
      · cases same
        exact ⟨_, _, _, .head _⟩
      · exact ⟨pending, token, point, .tail _ member⟩
  case startWaiting same | announceParked same | claim same =>
    exact kept nofun rfl (congrArg Packed.epoch same).symm
  case clearWord =>
    obtain ⟨_, _, parked⟩ := fits _ rfl
    exact kept nofun rfl (congrArg Packed.epoch parked).symm
  all_goals exact kept nofun rfl rfl

/-- A thread that is about to take up what is parked finds the word as it has left it. -/
theorem Sound.parked_turn (sound : Sound handle (old.toList.map (thread, ·) ++ others) log)
    (turns : Turns handle thread old after new entry) {other : Nat} {epoch : Epoch} {token : Token}
    (member : (other, .detaching epoch token .clearWord) ∈ others) :
    after.word = { epoch, phase := .parked } := by
  have fits := sound.fits_old
  obtain ⟨_, _, parked⟩ := sound.fits _ (List.mem_append_right _ member)
  cases turns
  case writeWord =>
    have idle := sound.idle_old _ rfl rfl
    rw [parked] at idle
    cases idle
  case startWaiting same | announceParked same =>
    rw [parked] at same
    cases same
  case claim same =>
    rw [parked] at same
    cases same
    obtain ⟨_, same | ⟨same, _⟩⟩ := fits _ rfl <;> cases same
  case clearWord =>
    -- Nobody else is inside the registration.
    obtain ⟨_, _, same⟩ := fits _ rfl
    rw [parked] at same
    cases same
    have registered := sound.registered epoch
    have here : epoch ∈ registrations others := List.mem_filterMap.2 ⟨_, member, rfl⟩
    have positive := List.count_pos_iff.2 here
    rw [registrations_map, List.count_append, Option.toList_some, List.filterMap_cons] at registered
    simp [Activity.registration?] at registered
    omega
  all_goals exact parked

theorem Sound.fits_others (sound : Sound handle (old.toList.map (thread, ·) ++ others) log)
    (turns : Turns handle thread old after new entry)
    (quiet : ∀ member ∈ others, member.1 = thread → member.2.isUser)
    (bound : (armings log).length < 2 ^ 62) :
    ∀ member ∈ others, member.2.Fits after (log ++ entry.toList) member.1 := by
  rintro ⟨other, activity⟩ member
  have fits := sound.fits _ (List.mem_append_right _ member)
  by_cases owner : ∃ mover ∈ old, mover.owns
  · obtain ⟨mover, ⟨⟩, owns⟩ := owner
    obtain ⟨idle, nobody⟩ := sound.alone owns
    have unowned := List.countP_eq_zero.1 nobody _ member
    exact fits.keep_of_owner turns (sound.fits_old _ rfl) owns idle (Bool.eq_false_iff.2 unowned)
      (quiet _ member) (sound.fresh bound)
  · have unowned : ∀ activity ∈ old, activity.owns = false :=
      fun activity here => Bool.eq_false_iff.2 fun owns => owner ⟨activity, here, owns⟩
    refine fits.keep_of_frame (turns.frame sound.fits_old unowned) ?_
    rintro epoch token rfl
    exact sound.parked_turn turns member

/-- A move keeps what the cells, the activities and what has been told say of each other. -/
theorem Sound.turn (sound : Sound handle (old.toList.map (thread, ·) ++ others) log)
    (turns : Turns handle thread old after new entry)
    (quiet : ∀ member ∈ others, member.1 = thread → member.2.isUser)
    (bound : (armings (log ++ entry.toList)).length < 2 ^ 62) :
    Sound after (new.toList.map (thread, ·) ++ others) (log ++ entry.toList) := by
  have fits := sound.fits_old
  have idle := sound.idle_old
  have grown : (armings log).length ≤ (armings (log ++ entry.toList)).length := by
    rw [armings, armings, List.filterMap_append, List.length_append]
    exact Nat.le_add_right _ _
  obtain ⟨numbered, counted⟩ := sound.numbered_turn turns bound
  constructor
  case numbered => exact numbered
  case counted => exact counted
  case single =>
    have passes := turns.passes fits idle
    have single := sound.single
    rw [owners_map] at single ⊢
    rw [tellings, misses, List.filterMap_append, List.filterMap_append, List.length_append,
      List.length_append]
    rw [tellings, misses] at passes single
    omega
  case registered => exact sound.registered_turn turns bound
  case attended => exact sound.attended_turn turns
  case settled =>
    intro epoch
    have settles := turns.settles fits idle epoch
    have settled := sound.settled epoch
    rw [acceptances, armings, List.filterMap_append, List.filterMap_append, List.count_append,
      List.count_append]
    rw [acceptances, armings] at settles settled
    omega
  case carrying =>
    intro epoch
    have carries := turns.carries fits idle epoch
    have carrying := sound.carrying epoch
    rw [carried_map, List.count_append] at carrying ⊢
    rw [acceptances, goings, misses, List.filterMap_append, List.filterMap_append,
      List.filterMap_append, List.count_append, List.count_append, List.count_append]
    rw [acceptances, goings, misses] at carries carrying
    omega
  case keeping => exact sound.keeping_turn turns
  case known => exact fun _ => sound.known_turn turns
  case fits =>
    intro member listed
    rcases List.mem_append.1 listed with listed | listed
    · obtain ⟨activity, inside, rfl⟩ := List.mem_map.1 listed
      exact sound.fits_new turns quiet activity (Option.mem_toList.1 inside)
    · exact sound.fits_others turns quiet (by omega) member listed

theorem Turns.registering (turns : Turns handle thread old after new entry)
    (fits : ∀ activity ∈ old, activity.Fits handle log thread) {epoch : Epoch}
    (registering : after.word = { epoch, phase := .registering }) :
    handle.word = { epoch, phase := .registering } ∨ epoch = handle.word.epoch + 1 := by
  cases turns
  case writeWord =>
    obtain ⟨_, _, _, rfl⟩ := fits _ rfl
    exact .inr (congrArg Packed.epoch registering).symm
  case startWaiting | clearWord | announceParked | claim => cases registering
  all_goals exact .inl registering

theorem Turns.waits (turns : Turns handle thread old after new entry)
    (waiting : after.word.phase = .waiting) :
    after.word = handle.word ∨ entry = some (.waiting after.word.epoch) := by
  cases turns
  case startWaiting => exact .inr rfl
  case writeWord | clearWord | announceParked | claim => cases waiting
  all_goals exact .inl rfl

theorem Sound.wentOn_turn (sound : Sound handle (old.toList.map (thread, ·) ++ others) log)
    {epoch : Epoch} {other : Nat} {outcome : Outcome Value} {pending : Stack (Frame Memory)}
    {token : Token}
    (turns : Turns handle thread old after new
      (some (.wentOn epoch other outcome pending token))) :
    ∃ registrar, .armed epoch registrar pending token ∈ log := by
  have fits := sound.fits_old
  cases turns with
  | goOnInline => exact ⟨thread, fits _ rfl⟩
  | goOn => exact fits _ rfl

/-- What is registering still has not been accepted. -/
theorem Sound.unaccepted_turn (sound : Sound handle (old.toList.map (thread, ·) ++ others) log)
    {epoch : Epoch} (turns : Turns handle thread old after new (some (.waiting epoch))) :
    epoch ∉ acceptances log := by
  intro accepted
  cases turns with
  | startWaiting registering =>
      have settled := sound.settled epoch
      have once := List.nodup_iff_count_le_one.1 sound.nodup epoch
      have positive := List.count_pos_iff.2 accepted
      simp [registering, Packed.awaits, Packed.isArmed] at settled
      omega

namespace Recorded

theorem claimed_turn (recorded : Recorded handle log)
    (sound : Sound handle (old.toList.map (thread, ·) ++ others) log) {epoch : Epoch} {other : Nat}
    {outcome : Outcome Value}
    (turns : Turns handle thread old after new (some (.claimed epoch other outcome))) :
    .waiting epoch ∈ log ∨ ∃ registrar pending token,
      registrar ≠ other ∧ .armed epoch registrar pending token ∈ log := by
  have fits := sound.fits_old
  cases turns with
  | claim same =>
      have busy : handle.word.phase ≠ .idle := by
        rw [same]
        obtain ⟨_, rfl | ⟨rfl, _⟩⟩ := fits _ rfl <;> rintro ⟨⟩
      obtain ⟨registrar, here, armed⟩ := sound.keeping busy
      obtain ⟨_, rfl | ⟨rfl, elsewhere⟩⟩ := fits _ rfl
      · have waiting := recorded.waits (congrArg Packed.phase same)
        rw [same] at waiting
        exact .inl waiting
      · rw [same] at armed
        refine .inr ⟨registrar, _, _, ?_, armed⟩
        rintro rfl
        exact elsewhere same here

theorem ignored_turn (recorded : Recorded handle log)
    (sound : Sound handle (old.toList.map (thread, ·) ++ others) log)
    (turns : Turns handle thread old after new entry) {before rest : List (Entry Memory)}
    {epoch : Epoch} {other : Nat}
    (split : log ++ entry.toList = before ++ .ignored epoch other :: rest) :
    (acceptances before).count epoch = (armings before).count epoch := by
  cases entry with
  | none => exact recorded.ignored ((List.append_nil log).symm.trans split)
  | some told =>
      rcases List.eq_nil_or_concat rest with rfl | ⟨more, last, rfl⟩
      · obtain ⟨rfl, same⟩ := List.append_inj' split rfl
        cases same
        cases turns with
        | ignore unarmed =>
            have settled := sound.settled epoch
            rw [Packed.awaits, if_neg unarmed] at settled
            exact settled
      · rw [List.concat_eq_append, ← List.cons_append, ← List.append_assoc] at split
        exact recorded.ignored (List.append_inj' split rfl).1

theorem turn (recorded : Recorded handle log)
    (sound : Sound handle (old.toList.map (thread, ·) ++ others) log)
    (turns : Turns handle thread old after new entry)
    (bound : (armings log).length < 2 ^ 62) : Recorded after (log ++ entry.toList) := by
  have fits := sound.fits_old
  have grows {told : Entry Memory} (listed : told ∈ log) : told ∈ log ++ entry.toList :=
    List.mem_append_left _ listed
  have listedIn {told : Entry Memory} (listed : told ∈ log ++ entry.toList) :
      told ∈ log ∨ entry = some told :=
    (List.mem_append.1 listed).imp_right fun inside => Option.mem_toList.1 inside
  constructor
  case wentOn =>
    intro epoch other outcome pending token listed
    rcases listedIn listed with before | rfl
    · exact (recorded.wentOn before).imp fun _ armed => grows armed
    · exact (sound.wentOn_turn turns).imp fun _ armed => grows armed
  case parked =>
    intro epoch other outcome listed
    rcases listedIn listed with before | rfl
    · obtain ⟨⟨pending, token, armed⟩, unreturned⟩ := recorded.parked before
      refine ⟨⟨pending, token, grows armed⟩, fun waiting => ?_⟩
      rcases listedIn waiting with earlier | rfl
      · exact unreturned earlier
      · exact sound.unaccepted_turn turns (List.mem_filterMap.2 ⟨_, before, rfl⟩)
    · cases turns with
      | announceParked registering =>
          obtain ⟨pending, token, armed⟩ := fits _ rfl
          refine ⟨⟨pending, token, grows armed⟩, fun waiting => ?_⟩
          rcases listedIn waiting with earlier | same
          · exact (recorded.waited earlier).2 registering
          · cases same
  case claimed =>
    intro epoch other outcome listed
    have claimed : .waiting epoch ∈ log ∨ ∃ registrar pending token,
        registrar ≠ other ∧ .armed epoch registrar pending token ∈ log := by
      rcases listedIn listed with before | rfl
      · exact recorded.claimed before
      · exact recorded.claimed_turn sound turns
    refine claimed.imp grows ?_
    rintro ⟨registrar, pending, token, elsewhere, armed⟩
    exact ⟨registrar, pending, token, elsewhere, grows armed⟩
  case waits =>
    intro waiting
    rcases turns.waits waiting with same | rfl
    · rw [same] at waiting ⊢
      exact grows (recorded.waits waiting)
    · exact List.mem_append_right _ (.head _)
  case waited =>
    intro epoch listed
    rcases listedIn listed with before | rfl
    · obtain ⟨armed, unregistering⟩ := recorded.waited before
      refine ⟨mem_armings_append armed _, fun registering => ?_⟩
      rcases turns.registering fits registering with earlier | rfl
      · exact unregistering earlier
      · exact sound.fresh bound armed
    · cases turns with
      | startWaiting registering =>
          obtain ⟨⟨_, armed⟩, _⟩ := fits _ rfl
          exact ⟨mem_armings_append (mem_armings armed) _, by rintro ⟨⟩⟩
  case ignored => exact fun split => recorded.ignored_turn sound turns split

end Recorded

end

structure Kept (race : Race Memory) : Prop where
  quiet : race.Quiet
  sound : Sound race.handle race.cast race.log
  recorded : Recorded race.handle race.log

theorem cast_opening (threads : Nat) (token : Token) :
    (opening threads token : Race Memory).cast = [(0, .running)] := by
  have idle : ((List.replicate threads ([] : List (Activity Memory))).zipIdx 1).flatMap
      (fun entry => entry.1.map (entry.2, ·)) = [] := by
    refine List.flatMap_eq_nil_iff.2 fun entry member => ?_
    have empty := List.eq_of_mem_replicate (List.fst_mem_of_mem_zipIdx member)
    rw [empty, List.map_nil]
  rw [Race.cast, opening, List.zipIdx_cons, List.flatMap_cons, idle]
  rfl

theorem kept_opening (threads : Nat) (token : Token) :
    (opening threads token : Race Memory).Kept := by
  constructor
  case quiet =>
    intro activities member activity inside
    rcases List.mem_cons.1 member with rfl | member
    · cases inside
    · cases List.eq_of_mem_replicate member
      cases inside
  case sound =>
    rw [cast_opening]
    constructor
    case numbered | counted | single => rfl
    case registered => exact fun _ => Nat.zero_le 1
    case attended => rintro (phase | phase) <;> cases phase
    case settled =>
      intro epoch
      simp [opening, Packed.awaits, Packed.isArmed, acceptances, armings]
    case carrying =>
      intro epoch
      simp [opening, Packed.parks, goings, misses, acceptances, carried, Activity.carried?]
    case keeping => exact fun busy => absurd rfl busy
    case known => exact fun _ here => by cases here
    case fits =>
      intro member listed
      cases List.mem_singleton.1 listed
      trivial
  case recorded =>
    constructor
    case ignored =>
      intro before epoch thread rest split
      cases List.append_eq_nil_iff.1 split.symm |>.2
    all_goals
      intros
      rename_i absurd
      cases absurd

theorem armings_step_le (race : Race Memory) (move : Nat × Choice Memory) :
    (armings race.log).length ≤ (armings (race.step move).log).length := by
  unfold step
  split
  case h_1 => exact Nat.le_refl _
  case h_2 =>
    split
    case h_1 => exact Nat.le_refl _
    case h_2 =>
      rw [armings_append, List.length_append]
      exact Nat.le_add_right _ _

theorem armings_play_le (race : Race Memory) (schedule : List (Nat × Choice Memory)) :
    (armings race.log).length ≤ (armings (race.play schedule).log).length := by
  induction schedule generalizing race with
  | nil => exact Nat.le_refl _
  | cons move rest inductionHypothesis =>
      exact Nat.le_trans (race.armings_step_le move) (inductionHypothesis _)

theorem Kept.step {race : Race Memory} (kept : race.Kept) (move : Nat × Choice Memory)
    (bound : (armings (race.step move).log).length < 2 ^ 62) : (race.step move).Kept := by
  rcases race.step_cases kept.quiet move with same | ⟨quiet, old, new, entry, others, moved⟩
  · rw [same]
    exact kept
  · have sound := kept.sound.perm moved.before
    have before := Nat.lt_of_le_of_lt (race.armings_step_le move) bound
    rw [moved.log] at bound
    have after := sound.turn moved.turns moved.quiet bound
    have recorded := kept.recorded.turn sound moved.turns before
    rw [← moved.log] at after recorded
    exact ⟨quiet, after.perm moved.now.symm, recorded⟩

/-- All of this holds along every schedule, as long as the epochs do not wrap. -/
theorem Kept.play {race : Race Memory} (kept : race.Kept) (schedule : List (Nat × Choice Memory))
    (bound : (armings (race.play schedule).log).length < 2 ^ 62) : (race.play schedule).Kept := by
  induction schedule generalizing race with
  | nil => exact kept
  | cons move rest inductionHypothesis =>
      have soon := Nat.lt_of_le_of_lt ((race.step move).armings_play_le rest) bound
      exact inductionHypothesis (kept.step move soon) bound

end Trampoline.Race
