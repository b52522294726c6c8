import Trampoline.Proofs.Contention
import Trampoline.Proofs.Delivery

/-!
Completions that overtake each other.

A thread that completes the boundary that it is registering parks the outcome first and says so in
the word afterwards.  If another thread claims the boundary in between, the run goes on there and may
have armed its next boundary, and parked an outcome of it, by the time that the first thread parks
its own, or takes it back.  Then the outcome of the next boundary is lost, and the run with it, or
the run goes on with the outcome that has been refused.

Where no boundary is claimed while its registering thread is completing it, nothing is lost.
-/

namespace Trampoline

variable {Memory : Type}

namespace Race

/-- Whether a thread may be about to park what it completes an arming with. -/
def Activity.parksFor (epoch : Epoch) : Activity Memory → Bool
  | .firing current _ _ .readRegistrar | .firing current _ _ .park
  | .firing current _ _ .announceParked => current = epoch
  | _ => false

/-- Whether a move claims a boundary that its registering thread is completing. -/
def overtakes (race : Race Memory) (move : Nat × Choice Memory) : Bool :=
  match race.threads[move.1]?.bind List.head? with
  | some (.firing epoch _ _ (.claim phase)) =>
      decide (race.handle.word = { epoch, phase }) && race.cast.any fun member =>
        member.2.parksFor epoch && decide (race.handle.registrar = some member.1)
  | _ => false

def undisturbed : Race Memory → List (Nat × Choice Memory) → Bool
  | _, [] => true
  | race, move :: rest => !race.overtakes move && (race.step move).undisturbed rest

/-- What an activity can rely on besides, where nobody is overtaken. -/
def Activity.Steady (handle : Handle Memory) (log : List (Entry Memory)) (thread : Nat) :
    Activity Memory → Prop
  | .firing _ given held .readWord | .firing _ given held (.claim _) => held = some given
  | .firing epoch given held .readRegistrar =>
      held = some given ∧ (handle.registrar = some thread →
        handle.word = { epoch, phase := .registering })
  | .firing epoch given held .park =>
      held = some given ∧ handle.registrar = some thread ∧
        handle.word = { epoch, phase := .registering }
  | .firing epoch given _ .announceParked =>
      handle.parked = some given ∧ handle.registrar = some thread ∧
        handle.word = { epoch, phase := .registering }
  | .firing _ _ _ .takeBack => False
  | .firing epoch given held .takeStack => held = some given ∧ .claimed epoch thread given ∈ log
  | .firing epoch _ _ (.readToken outcome _) => .claimed epoch thread outcome ∈ log
  | .detaching epoch _ .takeParked =>
      ∃ outcome, handle.parked = some outcome ∧ .parked epoch thread outcome ∈ log
  | .detaching epoch _ (.takeStack outcome) => .parked epoch thread outcome ∈ log
  | .running | .arming _ _ _ | .registering _ _ | .detaching _ _ .startWaiting
  | .detaching _ _ .clearWord => True

structure Steady (handle : Handle Memory) (cast : List (Nat × Activity Memory))
    (log : List (Entry Memory)) : Prop where
  activities : ∀ member ∈ cast, member.2.Steady handle log member.1
  stored : handle.word.phase = .parked → ∃ thread outcome,
    handle.parked = some outcome ∧ .parked handle.word.epoch thread outcome ∈ log
  missed : misses log = []
  wentOn : ∀ {epoch thread outcome pending token},
    .wentOn epoch thread outcome pending token ∈ log →
      .parked epoch thread outcome ∈ log ∨ .claimed epoch thread outcome ∈ log

theorem Steady.perm {handle : Handle Memory} {cast more : List (Nat × Activity Memory)}
    {log : List (Entry Memory)} (steady : Steady handle cast log) (same : cast.Perm more) :
    Steady handle more log where
  activities member listed := steady.activities member (same.mem_iff.2 listed)
  stored := steady.stored
  missed := steady.missed
  wentOn := steady.wentOn

section

variable {handle after : Handle Memory} {thread other : Nat} {old new : Option (Activity Memory)}
  {entry : Option (Entry Memory)} {others : List (Nat × Activity Memory)}
  {log : List (Entry Memory)} {epoch : Epoch}

/-- No other thread touches what a registering thread needs in order to park. -/
theorem Turns.spares (turns : Turns handle thread old after new entry)
    (sound : Sound handle (old.toList.map (thread, ·) ++ others) log)
    (steady : ∀ activity ∈ old, activity.Steady handle log thread)
    (word : handle.word = { epoch, phase := .registering }) (here : handle.registrar = some other)
    (elsewhere : other ≠ thread)
    (unclaimed : ∀ given held phase, old = some (.firing epoch given held (.claim phase)) →
      handle.word ≠ { epoch, phase }) :
    after.word = handle.word ∧ after.registrar = handle.registrar ∧
      after.parked = handle.parked := by
  have fits := sound.fits_old
  have busy : handle.word.phase ≠ .idle := by
    rw [word]
    nofun
  have unowned := sound.unowned_old busy
  cases turns
  case startWaiting registering =>
    -- The thread that leaves the registration is the one that armed.
    rw [word] at registering
    cases registering
    obtain ⟨⟨_, armed⟩, _⟩ := fits _ rfl
    obtain ⟨registrar, same, keeps⟩ := sound.keeping busy
    rw [word] at keeps
    cases here.symm.trans same
    exact absurd (sound.armed_unique keeps armed).1 elsewhere
  case clearWord =>
    obtain ⟨_, _, parked⟩ := fits _ rfl
    rw [word] at parked
    cases parked
  case park =>
    obtain ⟨_, registrar, _⟩ := steady _ rfl
    cases here.symm.trans registrar
    exact absurd rfl elsewhere
  case announceParked =>
    obtain ⟨_, registrar, _⟩ := steady _ rfl
    cases here.symm.trans registrar
    exact absurd rfl elsewhere
  case takeBack => exact (steady _ rfl).elim
  case claim same =>
    have moved := word.symm.trans same
    cases moved
    exact absurd same (unclaimed _ _ _ rfl)
  case setToken | saveStack | setRegistrar | readEpoch | writeWord | takeParked | goOnInline
      | takeStack | missOutcome | changeToken =>
    cases unowned _ rfl
  all_goals exact ⟨rfl, rfl, rfl⟩

/-- Nobody parks or takes back anything unless a registration is running, and only whoever has the
run takes what is parked. -/
theorem Turns.parked_of_idle (turns : Turns handle thread old after new entry)
    (steady : ∀ activity ∈ old, activity.Steady handle log thread)
    (unowned : ∀ activity ∈ old, activity.owns = false) (idle : handle.word.phase ≠ .registering) :
    after.parked = handle.parked := by
  cases turns
  case takeParked => cases unowned _ rfl
  case park =>
    obtain ⟨_, _, registering⟩ := steady _ rfl
    rw [registering] at idle
    exact absurd rfl idle
  case takeBack => exact (steady _ rfl).elim
  all_goals rfl

theorem Turns.registrar (turns : Turns handle thread old after new entry) :
    after.registrar = handle.registrar ∨ after.registrar = some thread := by
  cases turns
  case setRegistrar => exact .inr rfl
  all_goals exact .inl rfl

theorem Sound.alone_other (sound : Sound handle (old.toList.map (thread, ·) ++ others) log)
    {activity : Activity Memory} (member : (other, activity) ∈ others) (owns : activity.owns) :
    handle.word.phase = .idle ∧ ∀ mover ∈ old, mover.owns = false := by
  have single := sound.single
  have positive : 0 < owners others := List.countP_pos_iff.2 ⟨_, member, owns⟩
  rw [owners_map] at single
  constructor
  · exact Packed.keeps_eq_zero_iff.1 (by omega)
  · rintro mover ⟨⟩
    refine Bool.eq_false_iff.2 fun owns => ?_
    rw [Option.toList_some, List.countP_cons_of_pos owns] at single
    omega

theorem Steady.steady_old (steady : Steady handle (old.toList.map (thread, ·) ++ others) log) :
    ∀ activity ∈ old, activity.Steady handle log thread := by
  rintro activity ⟨⟩
  exact steady.activities _ (.head _)

theorem Activity.Steady.keep {activity : Activity Memory} (kept : activity.Steady handle log other)
    (steady : ∀ activity ∈ old, activity.Steady handle log thread)
    (sound : Sound handle (old.toList.map (thread, ·) ++ others) log)
    (turns : Turns handle thread old after new entry) (member : (other, activity) ∈ others)
    (user : other = thread → activity.isUser)
    (unclaimed : ∀ epoch given held phase, old = some (.firing epoch given held (.claim phase)) →
      activity.parksFor epoch → handle.registrar = some other → handle.word ≠ { epoch, phase }) :
    activity.Steady after (log ++ entry.toList) other := by
  have grows {told : Entry Memory} (listed : told ∈ log) : told ∈ log ++ entry.toList :=
    List.mem_append_left _ listed
  cases activity with
  | running | arming | registering => trivial
  | detaching epoch token point =>
      cases point with
      | startWaiting | clearWord => trivial
      | takeParked =>
          obtain ⟨outcome, parked, told⟩ := kept
          obtain ⟨idle, unowned⟩ := sound.alone_other member rfl
          refine ⟨outcome, ?_, grows told⟩
          rw [turns.parked_of_idle steady unowned (by rw [idle]; nofun), parked]
      | takeStack => exact grows kept
  | firing epoch given held point =>
      have elsewhere : other ≠ thread := fun same => by cases user same
      cases point with
      | readWord | claim => exact kept
      | readRegistrar =>
          refine ⟨kept.1, fun here => ?_⟩
          have registrar : handle.registrar = some other := by
            rcases turns.registrar with same | moved
            · exact same.symm.trans here
            · cases here.symm.trans moved
              exact absurd rfl elsewhere
          have word := kept.2 registrar
          obtain ⟨same, _, _⟩ := turns.spares sound steady word registrar elsewhere
            fun given held phase mover =>
              unclaimed _ given held phase mover (decide_eq_true rfl) registrar
          rw [same, word]
      | park =>
          obtain ⟨holds, registrar, word⟩ := kept
          obtain ⟨same, still, _⟩ := turns.spares sound steady word registrar elsewhere
            fun given held phase mover =>
              unclaimed _ given held phase mover (decide_eq_true rfl) registrar
          exact ⟨holds, still.trans registrar, same.trans word⟩
      | announceParked =>
          obtain ⟨parked, registrar, word⟩ := kept
          obtain ⟨same, still, left⟩ := turns.spares sound steady word registrar elsewhere
            fun given held phase mover =>
              unclaimed _ given held phase mover (decide_eq_true rfl) registrar
          exact ⟨left.trans parked, still.trans registrar, same.trans word⟩
      | takeBack => exact kept.elim
      | takeStack => exact ⟨kept.1, grows kept.2⟩
      | readToken => exact grows kept

theorem Steady.steady_new (steady : Steady handle (old.toList.map (thread, ·) ++ others) log)
    (sound : Sound handle (old.toList.map (thread, ·) ++ others) log)
    (recorded : Recorded handle log) (turns : Turns handle thread old after new entry) :
    ∀ activity ∈ new, activity.Steady after (log ++ entry.toList) thread := by
  have before := steady.steady_old
  rintro activity ⟨⟩
  cases turns with
  | clearWord =>
      obtain ⟨⟨_, armed⟩, _, parked⟩ := sound.fits_old _ rfl
      obtain ⟨registrar, outcome, stored, told⟩ := steady.stored (congrArg Packed.phase parked)
      rw [parked] at told
      obtain ⟨⟨_, _, same⟩, _⟩ := recorded.parked told
      obtain ⟨rfl, _⟩ := sound.armed_unique armed same
      exact ⟨outcome, stored, List.mem_append_left _ told⟩
  | takeParked parked =>
      obtain ⟨outcome, same, told⟩ := before _ rfl
      cases same.symm.trans parked
      exact List.mem_append_left _ told
  | seeRegistering registering => exact ⟨before _ rfl, fun _ => registering⟩
  | isRegistrar here => exact ⟨(before _ rfl).1, here, (before _ rfl).2 here⟩
  | isOther => exact (before _ rfl).1
  | park => exact before _ rfl
  | failToPark changed => exact absurd (before _ rfl).2.2 changed
  | takeBack => exact (before _ rfl).elim
  | claim => exact ⟨before _ rfl, List.mem_append_right _ (.head _)⟩
  | takeStack =>
      obtain ⟨holds, told⟩ := before _ rfl
      cases holds
      exact List.mem_append_left _ told
  | seeWaiting | failToClaim => exact before _ rfl
  | fire => rfl
  | setToken | saveStack | setRegistrar | readEpoch | writeWord | findParked | goOnInline | goOn
      | reach | changeToken | leave => trivial

/-- Where nobody is overtaken, a move misses nothing. -/
theorem Steady.turn (steady : Steady handle (old.toList.map (thread, ·) ++ others) log)
    (sound : Sound handle (old.toList.map (thread, ·) ++ others) log)
    (recorded : Recorded handle log) (turns : Turns handle thread old after new entry)
    (quiet : ∀ member ∈ others, member.1 = thread → member.2.isUser)
    (unclaimed : ∀ epoch given held phase, old = some (.firing epoch given held (.claim phase)) →
      ∀ member ∈ others, member.2.parksFor epoch → handle.registrar = some member.1 →
        handle.word ≠ { epoch, phase }) :
    Steady after (new.toList.map (thread, ·) ++ others) (log ++ entry.toList) := by
  have before := steady.steady_old
  have grows {told : Entry Memory} (listed : told ∈ log) : told ∈ log ++ entry.toList :=
    List.mem_append_left _ listed
  constructor
  case activities =>
    intro member listed
    rcases List.mem_append.1 listed with listed | listed
    · obtain ⟨activity, inside, rfl⟩ := List.mem_map.1 listed
      exact steady.steady_new sound recorded turns activity (Option.mem_toList.1 inside)
    · exact (steady.activities _ (List.mem_append_right _ listed)).keep before sound turns listed
        (quiet _ listed) fun epoch given held phase mover =>
          unclaimed epoch given held phase mover member listed
  case stored =>
    intro phase
    by_cases same : after.word = handle.word
    · rw [same] at phase ⊢
      obtain ⟨registrar, outcome, stored, told⟩ := steady.stored phase
      have unowned := sound.unowned_old (by rw [phase]; nofun)
      refine ⟨registrar, outcome, ?_, grows told⟩
      rw [turns.parked_of_idle before unowned (by rw [phase]; nofun), stored]
    · cases turns
      case announceParked =>
        exact ⟨thread, _, (before _ rfl).1, List.mem_append_right _ (.head _)⟩
      case writeWord | startWaiting | clearWord | claim => cases phase
      all_goals exact absurd rfl same
  case missed =>
    rw [misses, List.filterMap_append, ← misses, steady.missed, List.nil_append]
    cases turns
    case missParked missing =>
      obtain ⟨outcome, parked, _⟩ := before _ rfl
      cases missing.symm.trans parked
    case missOutcome => cases (before _ rfl).1
    all_goals rfl
  case wentOn =>
    intro epoch other outcome pending token listed
    rcases List.mem_append.1 listed with earlier | inside
    · exact (steady.wentOn earlier).imp grows grows
    · cases Option.mem_toList.1 inside
      cases turns with
      | goOnInline => exact .inl (grows (before _ rfl))
      | goOn => exact .inr (grows (before _ rfl))

end

section

variable {race : Race Memory}

theorem steady_opening (threads : Nat) (token : Token) :
    Steady (opening threads token : Race Memory).handle (opening threads token : Race Memory).cast
      (opening threads token).log := by
  rw [cast_opening]
  constructor
  case activities =>
    intro member listed
    cases List.mem_singleton.1 listed
    trivial
  case stored => exact fun parked => by cases parked
  case missed => rfl
  case wentOn => exact fun listed => by cases listed

theorem Kept.steady_step (kept : race.Kept) (steady : Steady race.handle race.cast race.log)
    {move : Nat × Choice Memory} (unclaimed : race.overtakes move = false) :
    Steady (race.step move).handle (race.step move).cast (race.step move).log := by
  rcases race.step_cases kept.quiet move with same | ⟨_, old, new, entry, others, moved⟩
  · rw [same]
    exact steady
  · rw [moved.log]
    refine ((steady.perm moved.before).turn (kept.sound.perm moved.before) kept.recorded moved.turns
      moved.quiet ?_).perm moved.now.symm
    rintro epoch given held phase rfl member listed parks here same
    obtain ⟨rest, top⟩ := moved.top _ rfl
    have present : member ∈ race.cast := moved.before.mem_iff.2 (.tail _ listed)
    have found : (race.cast.any fun member =>
        member.2.parksFor epoch && decide (race.handle.registrar = some member.1)) = true :=
      List.any_eq_true.2 ⟨member, present, by rw [parks, decide_eq_true here]; rfl⟩
    simp [overtakes, top, same, found] at unclaimed

theorem Kept.steady_play (kept : race.Kept) (steady : Steady race.handle race.cast race.log)
    (schedule : List (Nat × Choice Memory)) (undisturbed : race.undisturbed schedule)
    (bound : (armings (race.play schedule).log).length < 2 ^ 62) :
    Steady (race.play schedule).handle (race.play schedule).cast (race.play schedule).log := by
  induction schedule generalizing race with
  | nil => exact steady
  | cons move rest inductionHypothesis =>
      rw [Race.undisturbed, Bool.and_eq_true, Bool.not_eq_true'] at undisturbed
      have soon := Nat.lt_of_le_of_lt ((race.step move).armings_play_le rest) bound
      exact inductionHypothesis (kept.step move soon) (kept.steady_step steady undisturbed.1)
        undisturbed.2 bound

end

structure Delivered (race : Race Memory) : Prop where
  once : (tellings race.log).length = 1
  disarmed : race.handle.word.isArmed = false

/-- The run has told nothing and waits at its last arming, with the stack and the token of it. -/
structure Resumable (race : Race Memory) : Prop where
  untold : tellings race.log = []
  waits : race.handle.word.phase = .waiting
  latest : (armings race.log).getLast? = some race.handle.word.epoch
  saved : ∃ thread,
    .armed race.handle.word.epoch thread race.handle.saved race.handle.token ∈ race.log

/-- The run has told nothing and cannot be resumed: an accepted completion was missed. -/
structure Lost (race : Race Memory) : Prop where
  untold : tellings race.log = []
  disarmed : race.handle.word.isArmed = false
  missed : misses race.log ≠ []

/-- What has become of the armings, in whatever order. -/
structure Decided (race : Race Memory) : Prop where
  numbered : (armings race.log).map BitVec.toNat = List.range' 1 (armings race.log).length
  once : ∀ epoch, (goings race.log).count epoch ≤ (acceptances race.log).count epoch ∧
    (acceptances race.log).count epoch ≤ 1
  ignored : ∀ {before epoch thread rest}, race.log = before ++ .ignored epoch thread :: rest →
    epoch ∈ armings before → epoch ∈ acceptances before
  parked : ∀ {epoch thread outcome}, .parked epoch thread outcome ∈ race.log →
    (∃ pending token, .armed epoch thread pending token ∈ race.log) ∧ .waiting epoch ∉ race.log
  claimed : ∀ {epoch thread outcome}, .claimed epoch thread outcome ∈ race.log →
    .waiting epoch ∈ race.log ∨ ∃ registrar pending token,
      registrar ≠ thread ∧ .armed epoch registrar pending token ∈ race.log
  wentOn : ∀ {epoch thread outcome pending token},
    .wentOn epoch thread outcome pending token ∈ race.log →
      ∃ registrar, .armed epoch registrar pending token ∈ race.log

/-- The run goes on with what was accepted, every time that something was, and what is refused is
never seen. -/
structure Obeys (race : Race Memory) : Prop where
  outcome : ∀ {epoch thread outcome pending token},
    .wentOn epoch thread outcome pending token ∈ race.log →
      .parked epoch thread outcome ∈ race.log ∨ .claimed epoch thread outcome ∈ race.log
  everyTime : race.cast = [] →
    ∀ epoch, (goings race.log).count epoch = (acceptances race.log).count epoch
  unseen : ∀ thread epoch given held, (thread, .firing epoch given held .takeBack) ∉ race.cast

/-- Whoever takes up what is parked finds what was accepted, and the stack of the arming. -/
def Finds (race : Race Memory) : Prop :=
  ∀ thread epoch token, (thread, .detaching epoch token .takeParked) ∈ race.cast →
    .armed epoch thread race.handle.saved token ∈ race.log ∧
      ∃ outcome, race.handle.parked = some outcome ∧ .parked epoch thread outcome ∈ race.log

section

variable {race : Race Memory}

theorem Sound.getLast?_armings {handle : Handle Memory} {cast : List (Nat × Activity Memory)}
    {log : List (Entry Memory)} (sound : Sound handle cast log)
    (armed : handle.word.epoch ∈ armings log) :
    (armings log).getLast? = some handle.word.epoch := by
  have last := congrArg List.getLast? sound.numbered
  have some : (armings log).length ≠ 0 :=
    fun nothing => List.ne_nil_of_mem armed (List.length_eq_zero_iff.1 nothing)
  rw [List.getLast?_map, List.getLast?_range', if_neg some] at last
  obtain ⟨epoch, found, same⟩ := Option.map_eq_some_iff.1 last
  rw [found, BitVec.eq_of_toNat_eq (same.trans ?_)]
  rw [sound.counted]
  omega

theorem Kept.tellings_length_le_one (kept : race.Kept) : (tellings race.log).length ≤ 1 := by
  have single := kept.sound.single
  omega

theorem Kept.decided (kept : race.Kept) : race.Decided where
  numbered := kept.sound.numbered
  once epoch := by
    have carrying := kept.sound.carrying epoch
    have settled := kept.sound.settled epoch
    have armed := List.nodup_iff_count_le_one.1 kept.sound.nodup epoch
    omega
  ignored split member := by
    have accepted := kept.recorded.ignored split
    refine List.count_pos_iff.1 ?_
    rw [accepted]
    exact List.count_pos_iff.2 member
  parked := kept.recorded.parked
  claimed := kept.recorded.claimed
  wentOn := kept.recorded.wentOn

/-- While nothing is open, the run has ended, can be resumed, or was lost. -/
theorem Kept.delivered_or_resumable_or_lost (kept : race.Kept) (rests : race.cast = []) :
    race.Delivered ∨ race.Resumable ∨ race.Lost := by
  have single := kept.sound.single
  have attended := kept.sound.attended
  have nobody : owners race.cast = 0 := by rw [rests]; rfl
  rw [rests] at attended
  cases phase : race.handle.word.phase with
  | registering => cases attended (.inl phase)
  | parked => cases attended (.inr phase)
  | waiting =>
      have keeps : race.handle.word.keeps = 1 := if_neg (by rw [phase]; nofun)
      have untold : tellings race.log = [] := List.length_eq_zero_iff.1 (by omega)
      obtain ⟨thread, _, saved⟩ := kept.sound.keeping (by rw [phase]; nofun)
      exact .inr (.inl ⟨untold, phase, kept.sound.getLast?_armings (mem_armings saved), thread, saved⟩)
  | idle =>
      have keeps : race.handle.word.keeps = 0 := if_pos phase
      have disarmed : race.handle.word.isArmed = false := by rw [Packed.isArmed, phase]
      by_cases told : (tellings race.log).length = 1
      · exact .inl ⟨told, disarmed⟩
      · refine .inr (.inr ⟨List.length_eq_zero_iff.1 (by omega), disarmed, ?_⟩)
        intro nothing
        rw [nothing, List.length_nil] at single
        omega

theorem Kept.obeys (kept : race.Kept) (steady : Steady race.handle race.cast race.log) :
    race.Obeys where
  outcome := steady.wentOn
  everyTime rests epoch := by
    have carrying := kept.sound.carrying epoch
    have unparked : race.handle.word.parks epoch = 0 := by
      refine if_neg fun parked => ?_
      have attended := kept.sound.attended (.inr (congrArg Packed.phase parked))
      rw [rests] at attended
      cases attended
    rw [rests, steady.missed, unparked] at carrying
    exact carrying
  unseen thread epoch given held member := steady.activities _ member

theorem Kept.finds (kept : race.Kept) (steady : Steady race.handle race.cast race.log) :
    race.Finds := by
  intro thread epoch token member
  exact ⟨kept.sound.fits _ member, steady.activities _ member⟩

theorem kept_play (threads : Nat) (token : Token) (schedule : List (Nat × Choice Memory))
    (bound : (armings ((opening threads token).play schedule).log).length < 2 ^ 62) :
    ((opening threads token).play schedule).Kept :=
  (kept_opening threads token).play schedule bound

theorem steady_play {threads : Nat} {token : Token} {schedule : List (Nat × Choice Memory)}
    (undisturbed : (opening threads token).undisturbed schedule)
    (bound : (armings ((opening threads token).play schedule).log).length < 2 ^ 62) :
    let race := (opening threads token).play schedule
    Steady race.handle race.cast race.log :=
  (kept_opening threads token).steady_play (steady_opening threads token) schedule undisturbed bound

end

def accesses (thread count : Nat) : List (Nat × Choice Unit) :=
  List.replicate count (thread, .proceed)

/-- The registering thread of the first boundary is about to park what it completes it with.  Another
thread claims the boundary, goes on to the next one and completes that while it registers it. -/
def overtaking : List (Nat × Choice Unit) :=
  [(0, .reach {} .uncancelable)] ++ accesses 0 5 ++
  [(0, .fire 1 (.completed (.datum (.int 1))))] ++ accesses 0 2 ++
  [(1, .fire 1 (.completed (.datum (.int 2))))] ++ accesses 1 5 ++
  [(1, .reach {} .uncancelable)] ++ accesses 1 5 ++
  [(1, .fire 2 (.completed (.datum (.int 3))))] ++ accesses 1 4

/-- Then the first thread parks, is refused and takes back what is parked; the second leaves its
registration and finds that the cell is empty. -/
def missing : List (Nat × Choice Unit) :=
  overtaking ++ accesses 0 4 ++ [(1, .leave)] ++ accesses 1 2

/-- Or the second leaves its registration as soon as the first has parked. -/
def mistaking : List (Nat × Choice Unit) :=
  overtaking ++ accesses 0 1 ++ [(1, .leave)] ++ accesses 1 4

/-- The completion of the second boundary was accepted, but nobody has anything left to do for the
run: it has told nothing and nothing can resume it. -/
theorem overtaken_is_lost :
    let race := (opening 1 .uncancelable).play (missing ++ accesses 1 1 ++ [(0, .leave)] ++ accesses 0 1)
    acceptances race.log = [1, 2] ∧ race.cast = [] ∧ race.Lost ∧
      ¬(race.Delivered ∨ race.Resumable) := by
  intro race
  have untold : tellings race.log = [] := rfl
  have phase : race.handle.word.phase = .idle := rfl
  refine ⟨rfl, rfl, ⟨untold, by rw [Packed.isArmed, phase], nofun⟩, ?_⟩
  rintro (delivered | resumable)
  · have once := delivered.once
    rw [untold] at once
    cases once
  · have waits := resumable.waits
    rw [phase] at waits
    cases waits

/-- The run goes on from its second boundary with an outcome of the first that was refused, and not
with the one that was accepted. -/
theorem overtaken_goes_on_with_refused :
    let race := (opening 1 .uncancelable).play mistaking
    .parked 2 1 (.completed (.datum (.int 3))) ∈ race.log ∧
      .wentOn 2 1 (.completed (.datum (.int 1))) {} .uncancelable ∈ race.log ∧
      ¬race.Obeys := by
  intro race
  have log : race.log = [.armed 1 0 {} .uncancelable, .claimed 1 1 (.completed (.datum (.int 2))),
      .wentOn 1 1 (.completed (.datum (.int 2))) {} .uncancelable, .armed 2 1 {} .uncancelable,
      .parked 2 1 (.completed (.datum (.int 3))),
      .wentOn 2 1 (.completed (.datum (.int 1))) {} .uncancelable] := rfl
  have wentOn : .wentOn 2 1 (.completed (.datum (.int 1))) {} .uncancelable ∈ race.log := by
    simp [log]
  refine ⟨by simp [log], wentOn, fun obeys => ?_⟩
  rcases obeys.outcome wentOn with accepted | accepted <;> simp [log] at accepted

/-- The word said parked, and yet nothing is. -/
theorem overtaken_finds_nothing :
    let race := (opening 1 .uncancelable).play missing
    (1, .detaching 2 .uncancelable .takeParked) ∈ race.cast ∧ race.handle.parked = none ∧
      ¬race.Finds := by
  intro race
  have here : (1, .detaching 2 .uncancelable .takeParked) ∈ race.cast := .tail _ (.head _)
  refine ⟨here, rfl, fun finds => ?_⟩
  obtain ⟨_, outcome, parked, _⟩ := finds _ _ _ here
  cases parked

end Race

/-- A run that is not lost is told once or can still be resumed, however its completions race; and it
is lost only where one overtakes another. -/
theorem delivered_exactly_once :
    (∀ (memory : Memory) (codes : List (Option String × Code Memory .unit)) (schedule : List Nat)
        (run : Nat), run < ((Pool.opening memory codes).chronicle schedule).pool.host.runs.size →
      ((Pool.opening memory codes).chronicle schedule).Delivers run) ∧
    ∀ (threads : Nat) (token : Token) (schedule : List (Nat × Race.Choice Memory)),
      let race := (Race.opening threads token).play schedule
      (Race.armings race.log).length < 2 ^ 62 →
        (Race.tellings race.log).length ≤ 1 ∧
        (race.cast = [] → race.Delivered ∨ race.Resumable ∨ race.Lost) ∧
        ((Race.opening threads token).undisturbed schedule → ¬race.Lost) := by
  constructor
  · exact fun memory codes schedule run => Pool.delivers_chronicle memory codes schedule
  · intro threads token schedule race bound
    have kept := Race.kept_play threads token schedule bound
    refine ⟨kept.tellings_length_le_one, kept.delivered_or_resumable_or_lost, ?_⟩
    intro undisturbed lost
    exact lost.missed (Race.steady_play undisturbed bound).missed

/-- A run whose only boundary is never completed can be resumed. -/
theorem delivered_exactly_once_never :
    let chronicle := (Pool.opening () Plan.never.alone).chronicle (List.replicate 5 0)
    0 < chronicle.pool.host.runs.size ∧ chronicle.pool.rests 0 = true ∧
      (chronicle.Delivered 0 ∨ chronicle.Resumable 0) ∧
    let schedule : List (Nat × Race.Choice Unit) := (0, .reach {} .uncancelable) ::
      Race.accesses 0 5 ++ (0, .leave) :: Race.accesses 0 1
    let race := (Race.opening 0 .uncancelable).play schedule
    race.cast = [] ∧ (Race.opening 0 .uncancelable).undisturbed schedule = true ∧
      (race.Delivered ∨ race.Resumable) := by
  intro chronicle
  have started : 0 < chronicle.pool.host.runs.size := by decide
  have rests : chronicle.pool.rests 0 = true := by decide
  have delivers := delivered_exactly_once.1 () Plan.never.alone (List.replicate 5 0) 0 started
  refine ⟨started, rests, (delivers.rests rests).1, ?_⟩
  intro schedule race
  have idle : race.cast = [] := rfl
  have undisturbed : (Race.opening 0 .uncancelable).undisturbed schedule = true := by decide
  have bound : (Race.armings race.log).length < 2 ^ 62 := by
    have once : (Race.armings race.log).length = 1 := rfl
    rw [once]
    decide
  have raced := delivered_exactly_once.2 0 .uncancelable schedule bound
  refine ⟨idle, undisturbed, ?_⟩
  rcases raced.2.1 idle with delivered | resumable | lost
  · exact .inl delivered
  · exact .inr resumable
  · exact absurd lost (raced.2.2 undisturbed)

/-- The first completion that is accepted decides how the run goes on, and no other is; it goes on as
decided, unless one overtakes another. -/
theorem first_completion_wins :
    (∀ (memory : Memory) (codes : List (Option String × Code Memory .unit)) (schedule : List Nat),
      ((Pool.opening memory codes).chronicle schedule).Settled) ∧
    ∀ (threads : Nat) (token : Token) (schedule : List (Nat × Race.Choice Memory)),
      let race := (Race.opening threads token).play schedule
      (Race.armings race.log).length < 2 ^ 62 →
        race.Decided ∧ ((Race.opening threads token).undisturbed schedule → race.Obeys) := by
  constructor
  · exact fun memory codes schedule => Pool.settled_chronicle memory codes schedule
  · intro threads token schedule race bound
    have kept := Race.kept_play threads token schedule bound
    exact ⟨kept.decided, fun undisturbed => kept.obeys (Race.steady_play undisturbed bound)⟩

/-- Two threads complete the first boundary one after the other, and the run goes on as the first of
them says. -/
theorem first_completion_wins_twice :
    let schedule : List (Nat × Race.Choice Unit) :=
      [(0, .reach {} .uncancelable)] ++ Race.accesses 0 5 ++
      [(1, .fire 1 (.completed (.datum (.int 2))))] ++ Race.accesses 1 5 ++
      [(0, .fire 1 (.completed (.datum (.int 1))))] ++ Race.accesses 0 1
    let race := (Race.opening 1 .uncancelable).play schedule
    (Race.armings race.log).length < 2 ^ 62 ∧ race.Decided ∧
      (Race.opening 1 .uncancelable).undisturbed schedule = true ∧ race.Obeys := by
  intro schedule race
  have undisturbed : (Race.opening 1 .uncancelable).undisturbed schedule = true := by decide
  have bound : (Race.armings race.log).length < 2 ^ 62 := by
    have once : (Race.armings race.log).length = 1 := rfl
    rw [once]
    decide
  obtain ⟨decided, obeys⟩ := first_completion_wins.2 1 .uncancelable schedule bound
  exact ⟨bound, decided, undisturbed, obeys undisturbed⟩

end Trampoline
