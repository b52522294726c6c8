import Trampoline.Proofs.Capturing
import Trampoline.Proofs.Move.Bookkeeping
import Trampoline.Proofs.Move.Slim

/-!
The settings are fixed by their first use.

Settings are read by code that asks for them, and by a loop that comes to have two frames pending;
code may also install some.  The first of these fixes the settings for good, unless it is an
installation that is refused.  So all readers find the same settings, and an installation succeeds
only as the first use.
-/

namespace Trampoline

variable {Memory : Type} {last form : Form}

/-! ### Uses -/

namespace Settings

inductive Use where
  | read (found : Settings)
  /-- A loop has two frames pending, which reads the settings. -/
  | crowded
  | installed (settings : Settings)
  | refused (settings : Settings) (fault : Fault)
  deriving DecidableEq

namespace Use

/-- What a use fixes the settings to, if nothing has fixed them before. -/
def fixes? : Use → Option Settings
  | .read found => some found
  | .crowded => some {}
  | .installed settings => some settings
  | .refused _ _ => none

def isInstalled : Use → Bool
  | .installed _ => true
  | _ => false

def isRead : Use → Bool
  | .read _ | .crowded => true
  | _ => false

/-- Whether a use may come about where the settings have been fixed, or have not. -/
def Suits (fixed : Option Settings) : Use → Prop
  | .read found => found = fixed.getD {}
  | .crowded => True
  | .installed settings => fixed = none ∧ settings.fault? = none
  | .refused settings fault =>
      settings.fault? = some fault ∨
        settings.fault? = none ∧ fixed ≠ none ∧ fault = .alreadyInstalled

end Use

def fixedBy (uses : List Use) : Option Settings :=
  uses.findSome? Use.fixes?

def Follow : Option Settings → List Use → Prop
  | _, [] => True
  | fixed, use :: uses => use.Suits fixed ∧ Follow (fixed.or use.fixes?) uses

/-- What comes of installing settings, if they could be loaded, after uses. -/
def verdict (uses : List Use) (loaded : Except Fault Settings) : Except Fault Unit :=
  match loaded with
  | .error fault => .error fault
  | .ok settings =>
      match settings.fault?, fixedBy uses with
      | some fault, _ => .error fault
      | none, some _ => .error .alreadyInstalled
      | none, none => .ok ()

section Uses

variable {fixed : Option Settings} {uses : List Use} {settings found : Settings}

theorem fixedBy_append (uses more : List Use) :
    fixedBy (uses ++ more) = (fixedBy uses).or (fixedBy more) :=
  List.findSome?_append

theorem fixedBy_cons (use : Use) (uses : List Use) :
    fixedBy (use :: uses) = use.fixes?.or (fixedBy uses) := by
  rw [← List.singleton_append, fixedBy_append]
  cases use <;> rfl

theorem fixedBy_eq_none_iff : fixedBy uses = none ↔ ∀ use ∈ uses, use.fixes? = none :=
  List.findSome?_eq_none_iff

theorem follow_append {more : List Use} :
    Follow fixed (uses ++ more) ↔ Follow fixed uses ∧ Follow (fixed.or (fixedBy uses)) more := by
  induction uses generalizing fixed with
  | nil => simp [Follow, fixedBy]
  | cons use uses inductionHypothesis =>
      rw [List.cons_append, Follow, Follow, inductionHypothesis, fixedBy_cons, Option.or_assoc,
        and_assoc]

namespace Follow

theorem read_eq (follow : Follow fixed uses) (read : Use.read found ∈ uses) :
    fixed.or (fixedBy uses) = some found := by
  induction uses generalizing fixed with
  | nil => cases read
  | cons use uses inductionHypothesis =>
      obtain ⟨suits, follow⟩ := follow
      rw [fixedBy_cons, ← Option.or_assoc]
      rcases List.mem_cons.1 read with rfl | read
      · obtain rfl : found = fixed.getD {} := suits
        cases fixed <;> rfl
      · exact inductionHypothesis follow read

/-- What holds of the defaults and of all settings that are installed holds in the end. -/
theorem fixedBy_induction {motive : Settings → Prop} (follow : Follow fixed uses)
    (first : ∀ settings ∈ fixed, motive settings) (defaults : motive {})
    (installs : ∀ settings, .installed settings ∈ uses → settings.fault? = none → motive settings)
    (found : fixed.or (fixedBy uses) = some settings) : motive settings := by
  induction uses generalizing fixed with
  | nil => exact first settings (by simpa [fixedBy] using found)
  | cons use uses inductionHypothesis =>
      obtain ⟨suits, follow⟩ := follow
      rw [fixedBy_cons, ← Option.or_assoc] at found
      refine inductionHypothesis follow ?_ (fun other member => installs other (.tail _ member))
        found
      intro next member
      cases fixed with
      | some settings => exact first next member
      | none =>
          cases use with
          | read asked =>
              obtain rfl : asked = ({} : Settings) := suits
              cases member
              exact defaults
          | crowded =>
              cases member
              exact defaults
          | installed settings =>
              cases member
              exact installs next (.head _) suits.2
          | refused => cases member

theorem fault?_eq (follow : Follow none uses) (found : fixedBy uses = some settings) :
    settings.fault? = none :=
  follow.fixedBy_induction nofun fault?_default (fun _ _ valid => valid) found

theorem eq_default (follow : Follow none uses) (never : ∀ other, .installed other ∉ uses)
    (found : fixedBy uses = some settings) : settings = {} :=
  follow.fixedBy_induction (motive := fun settings => settings = {}) nofun rfl
    (fun other member => absurd member (never other)) found

theorem not_installed (follow : Follow fixed uses) (already : fixed ≠ none) :
    Use.installed settings ∉ uses := by
  induction uses generalizing fixed with
  | nil => exact List.not_mem_nil
  | cons use uses inductionHypothesis =>
      obtain ⟨suits, follow⟩ := follow
      intro member
      rcases List.mem_cons.1 member with rfl | member
      · exact already suits.1
      · refine inductionHypothesis follow ?_ member
        cases fixed with
        | none => cases already rfl
        | some => exact Option.some_ne_none _

theorem fixedBy_eq_of_installed (follow : Follow none uses)
    (installed : Use.installed settings ∈ uses) : fixedBy uses = some settings := by
  induction uses with
  | nil => cases installed
  | cons use uses inductionHypothesis =>
      obtain ⟨suits, follow⟩ := follow
      rw [fixedBy_cons]
      rcases List.mem_cons.1 installed with rfl | installed
      · rfl
      · cases fixes : use.fixes? with
        | some first =>
            rw [fixes] at follow
            cases follow.not_installed (Option.some_ne_none _) installed
        | none =>
            rw [fixes] at follow
            exact inductionHypothesis follow installed

theorem countP_isInstalled_le (follow : Follow fixed uses) : uses.countP Use.isInstalled ≤ 1 := by
  induction uses generalizing fixed with
  | nil => exact Nat.zero_le _
  | cons use uses inductionHypothesis =>
      obtain ⟨suits, follow⟩ := follow
      cases use with
      | installed settings =>
          have none : uses.countP Use.isInstalled = 0 := by
            refine List.countP_eq_zero.2 fun other member => ?_
            cases other with
            | installed more =>
                refine (follow.not_installed ?_ member).elim
                rw [suits.1]
                exact Option.some_ne_none _
            | _ => exact Bool.false_ne_true
          exact Nat.le_of_eq (by rw [List.countP_cons_of_pos rfl, none])
      | _ =>
          rw [List.countP_cons_of_neg Bool.false_ne_true]
          exact inductionHypothesis follow

theorem refused_cases {fault : Fault} (follow : Follow fixed uses)
    (refused : Use.refused settings fault ∈ uses) :
    settings.fault? = some fault ∨ settings.fault? = none ∧ fault = .alreadyInstalled := by
  induction uses generalizing fixed with
  | nil => cases refused
  | cons use uses inductionHypothesis =>
      obtain ⟨suits, follow⟩ := follow
      rcases List.mem_cons.1 refused with rfl | refused
      · exact suits.imp_right fun ⟨valid, _, already⟩ => ⟨valid, already⟩
      · exact inductionHypothesis follow refused

/-- The settings are those that were installed, or else the defaults, if they were read. -/
theorem fixedBy_eq_some_iff (follow : Follow none uses) :
    fixedBy uses = some settings ↔
      .installed settings ∈ uses ∨
        settings = {} ∧ (∀ other, .installed other ∉ uses) ∧ ∃ use ∈ uses, use.isRead = true := by
  constructor
  · intro found
    by_cases installed : ∃ other, Use.installed other ∈ uses
    · obtain ⟨other, member⟩ := installed
      rw [follow.fixedBy_eq_of_installed member] at found
      cases found
      exact .inl member
    · rw [not_exists] at installed
      obtain ⟨use, member, fixes⟩ := List.exists_of_findSome?_eq_some found
      refine .inr ⟨follow.eq_default installed found, installed, use, member, ?_⟩
      cases use with
      | read | crowded => rfl
      | installed other => cases installed other member
      | refused => cases fixes
  · rintro (installed | ⟨rfl, never, use, member, isRead⟩)
    · exact follow.fixedBy_eq_of_installed installed
    · cases fixes : fixedBy uses with
      | none =>
          have nothing := fixedBy_eq_none_iff.1 fixes use member
          cases use with
          | refused => cases isRead
          | _ => cases nothing
      | some found => rw [follow.eq_default never fixes]

end Follow

/-- Installing succeeds if the settings could be loaded and are valid, and no others are fixed. -/
theorem verdict_eq_ok_iff {loaded : Except Fault Settings} :
    verdict uses loaded = .ok () ↔
      ∃ settings, loaded = .ok settings ∧ settings.fault? = none ∧
        ∀ use ∈ uses, use.fixes? = none := by
  rw [← fixedBy_eq_none_iff]
  cases loaded with
  | error fault => simp [verdict]
  | ok settings =>
      simp only [verdict]
      split <;> simp_all

/-- It fails because of the first fault, or else because others are fixed. -/
theorem verdict_eq_error_iff {loaded : Except Fault Settings} {fault : Fault} :
    verdict uses loaded = .error fault ↔
      loaded = .error fault ∨ ∃ settings, loaded = .ok settings ∧
        (settings.fault? = some fault ∨
          settings.fault? = none ∧ fault = .alreadyInstalled ∧ ∃ use ∈ uses, use.fixes? ≠ none) := by
  have fixes : (∃ use ∈ uses, use.fixes? ≠ none) ↔ fixedBy uses ≠ none := by
    simp [fixedBy_eq_none_iff]
  rw [fixes]
  cases loaded with
  | error other => simp [verdict]
  | ok settings =>
      cases faulty : settings.fault? with
      | some first => simp [verdict, faulty, eq_comm]
      | none => cases found : fixedBy uses <;> simp [verdict, faulty, found, eq_comm]

end Uses

end Settings

/-! ### Moves -/

open Settings (Use fixedBy Follow verdict)

namespace Machine

def uses (machine : Machine Memory last) : List Use :=
  match machine.focus with
  | .code (.ask .settings _) _ => [.read machine.host.readSettings.1]
  | .code (.ask (.install settings) _) _ =>
      match (machine.host.install settings).1 with
      | .ok () => [.installed settings]
      | .error fault => [.refused settings fault]
  | _ => if machine.next.focus.isCrowded then [.crowded] else []

/-- Uses that suit the settings of a host, and lead to those of another one. -/
structure Settles (host : Host Memory) (uses : List Use) (after : Host Memory) : Prop where
  follow : Follow host.settings uses
  settings : after.settings = host.settings.or (fixedBy uses)

variable {form : Form} {host : Host Memory}

theorem settles_read (next : Settings → Code Memory form) (callers : Callers Memory last form) :
    let machine : Machine Memory last := ⟨.code (.ask .settings next) callers, host⟩
    Settles host machine.uses machine.next.host := by
  intro machine
  have uses : machine.uses = [.read host.readSettings.1] := rfl
  have after : machine.next.host = host.readSettings.2 := rfl
  rw [uses, after]
  constructor
  · refine ⟨?_, trivial⟩
    unfold Host.readSettings
    split <;> simp_all [Use.Suits]
  · unfold Host.readSettings
    split <;> simp_all [fixedBy, Use.fixes?]

theorem settles_install (settings : Settings) (next : Except Settings.Fault Unit → Code Memory form)
    (callers : Callers Memory last form) :
    let machine : Machine Memory last := ⟨.code (.ask (.install settings) next) callers, host⟩
    Settles host machine.uses machine.next.host := by
  intro machine
  have after : machine.next.host = (host.install settings).2 := rfl
  rw [after]
  simp only [machine, uses, Host.install]
  cases faulty : settings.fault? with
  | some fault => exact ⟨⟨.inl faulty, trivial⟩, by simp [fixedBy, Use.fixes?]⟩
  | none =>
      cases found : host.settings with
      | some other =>
          refine ⟨⟨.inr ⟨faulty, ?_, rfl⟩, trivial⟩, by simp [fixedBy, Use.fixes?, found]⟩
          rw [found]
          exact Option.some_ne_none other
      | none =>
          refine ⟨⟨⟨found, faulty⟩, trivial⟩, ?_⟩
          simp [fixedBy, Use.fixes?, found, Host.emit, Host.write]

theorem uses_eq {machine : Machine Memory last} (other : machine.focus.isConfiguring = false) :
    machine.uses = if machine.next.focus.isCrowded then [.crowded] else [] := by
  unfold uses
  split
  · rename_i focused
    rw [focused] at other
    cases other
  · rename_i focused
    rw [focused] at other
    cases other
  · rfl

/-- A loop reads the settings as soon as it has two frames pending, and not before. -/
theorem settles_next (machine : Machine Memory last)
    (slim : machine.host.settings = none → machine.Slim) :
    Settles machine.host machine.uses machine.next.host := by
  cases asks : machine.focus.isConfiguring with
  | true =>
      obtain ⟨focus, host⟩ := machine
      cases focus with
      | code code callers =>
          cases code with
          | ask request next =>
              cases request with
              | settings => exact settles_read next callers
              | install settings => exact settles_install settings next callers
              | _ => cases asks
          | _ => cases asks
      | _ => cases asks
  | false =>
      rw [uses_eq asks]
      cases crowded : machine.next.focus.isCrowded with
      | true =>
          refine ⟨⟨trivial, trivial⟩, ?_⟩
          rcases machine.balances_next.settings asks with same | ⟨_, read⟩
          · cases fixed : machine.host.settings with
            | some settings => rw [same, fixed]; rfl
            | none =>
                have missing : machine.next.host.settings = none := same.trans fixed
                have still := ((slim fixed).next missing).focus.isCrowded_eq
                rw [crowded] at still
                cases still
          · rw [read]
            cases machine.host.settings <;> rfl
      | false =>
          refine ⟨trivial, ?_⟩
          rcases machine.balances_next.settings asks with same | ⟨full, _⟩
          · simpa [fixedBy] using same
          · rw [crowded] at full
            cases full

end Machine

namespace Pool

variable {pool : Pool Memory}

structure Slim (pool : Pool Memory) : Prop where
  workers : ∀ worker ∈ pool.workers, worker.focus.Slim
  host : pool.host.Slim

/-- All stacks are slim as long as the settings are not fixed. -/
def Spares (pool : Pool Memory) : Prop :=
  pool.host.settings = none → pool.Slim

end Pool

def Worker.uses : Reader Memory Use := fun worker host => (worker.machine host).uses

namespace Pool

variable {pool : Pool Memory} {worker : Worker Memory}

theorem Spares.machine (spares : pool.Spares) (member : worker ∈ pool.workers)
    (missing : (worker.machine pool.host).host.settings = none) :
    (worker.machine pool.host).Slim :=
  ⟨(spares missing).workers worker member, (spares missing).host.of_same rfl rfl rfl⟩

theorem Spares.move (spares : pool.Spares) (position : Nat) : (pool.move position).2.Spares := by
  intro missing
  cases found : pool.workers[position]? with
  | none =>
      rw [move_of_none found] at missing ⊢
      exact spares missing
  | some worker =>
      have slim := spares.machine (List.mem_of_getElem? found)
      have settled := (worker.machine pool.host).settles_next slim
      have host : (pool.move position).2.host = (worker.machine pool.host).next.host := by
        rw [move_of_worker found]
      rw [host] at missing
      have fresh : pool.host.settings = none :=
        (Option.or_eq_none_iff.1 (settled.settings.symm.trans missing)).1
      have stays := (slim fresh).next missing
      refine ⟨forall_workers_move (spares fresh).workers ?_, host ▸ stays.host⟩
      intro other same
      cases found.symm.trans same
      exact stays.focus

def uses (pool : Pool Memory) (schedule : List Nat) : List Use :=
  (pool.readings Worker.uses schedule).map (·.2)

theorem settles_move (spares : pool.Spares) (position : Nat) :
    Machine.Settles pool.host (pool.reading Worker.uses position) (pool.move position).2.host := by
  cases found : pool.workers[position]? with
  | none =>
      rw [move_of_none found, reading_of_none _ found]
      exact ⟨trivial, (Option.or_none).symm⟩
  | some worker =>
      rw [move_of_worker found, reading_of_worker _ found]
      have settled :=
        (worker.machine pool.host).settles_next (spares.machine (List.mem_of_getElem? found))
      exact ⟨settled.follow, settled.settings⟩

end Pool

namespace Chronicle

theorem settles_after (chronicle : Chronicle Memory) (spares : chronicle.pool.Spares)
    (schedule : List Nat) :
    Machine.Settles chronicle.pool.host (chronicle.pool.uses schedule)
      (chronicle.after schedule).pool.host := by
  induction schedule generalizing chronicle with
  | nil => exact ⟨trivial, (Option.or_none).symm⟩
  | cons position schedule inductionHypothesis =>
      have now := Pool.settles_move spares position
      have spares' : (chronicle.move position).pool.Spares := spares.move position
      have later := inductionHypothesis (chronicle.move position) spares'
      have split : chronicle.pool.uses (position :: schedule) =
          chronicle.pool.reading Worker.uses position ++
            (chronicle.move position).pool.uses schedule := by
        simp [Pool.uses, Pool.readings, Chronicle.move, Function.comp_def]
      rw [split]
      constructor
      · refine Settings.follow_append.2 ⟨now.follow, ?_⟩
        rw [← now.settings]
        exact later.follow
      · rw [Settings.fixedBy_append, ← Option.or_assoc, ← now.settings]
        exact later.settings

end Chronicle

namespace Pool

theorem spares_opening (memory : Memory) {codes : List (Option String × Code Memory .unit)}
    (slim : ∀ entry ∈ codes, entry.2.Slim) : (opening memory codes).Spares := by
  refine fun _ => ⟨fun worker member => ?_, ⟨?_, ?_, ?_⟩⟩
  · obtain ⟨id, bound, rfl⟩ := List.mem_mapIdx.1 member
    exact ⟨slim _ (List.getElem_mem bound), trivial⟩
  · intro run entry found
    cases found
  · intro number task found
    cases found
  · intro kept plan found
    cases found

theorem spares_chronicle (memory : Memory) {codes : List (Option String × Code Memory .unit)}
    (slim : ∀ entry ∈ codes, entry.2.Slim) (schedule : List Nat) :
    ((opening memory codes).chronicle schedule).pool.Spares :=
  chronicle_induction (motive := fun chronicle => chronicle.pool.Spares) _
    (spares_opening memory slim) (fun _ position spares => spares.move position) schedule

/-- From the opening on the first use of all fixes the settings. -/
theorem settles_chronicle (memory : Memory) {codes : List (Option String × Code Memory .unit)}
    (slim : ∀ entry ∈ codes, entry.2.Slim) (schedule : List Nat) :
    Machine.Settles (opening memory codes).host ((opening memory codes).uses schedule)
      ((opening memory codes).chronicle schedule).pool.host :=
  Chronicle.settles_after { pool := opening memory codes } (spares_opening memory slim) schedule

end Pool

/-! ### What comes of the settings -/

def Code.installing (loaded : Except Settings.Fault Settings)
    (next : Except Settings.Fault Unit → Code Memory form) : Code Memory form :=
  match loaded with
  | .ok settings => .ask (.install settings) next
  | .error fault => next (.error fault)

/-- What has come of the settings when a pool has moved. -/
structure Pool.FixesSettings (pool : Pool Memory) (schedule : List Nat) : Prop where
  /-- The first use fixes them. -/
  fixed : (pool.chronicle schedule).pool.host.settings = fixedBy (pool.uses schedule)
  /-- Until then no stack has held two frames. -/
  spared : (∀ use ∈ pool.uses schedule, use.fixes? = none) → (pool.chronicle schedule).pool.Slim
  /-- All who have read them have found the same, which are valid. -/
  read : ∀ found, .read found ∈ pool.uses schedule →
    fixedBy (pool.uses schedule) = some found ∧ found.fault? = none
  /-- At most one installation has succeeded. -/
  once : (pool.uses schedule).countP Use.isInstalled ≤ 1
  /-- The others were refused for a fault, or else because they came too late. -/
  refused : ∀ settings fault, .refused settings fault ∈ pool.uses schedule →
    settings.fault? = some fault ∨ settings.fault? = none ∧ fault = .alreadyInstalled
  /-- Who reads them next finds those that are fixed, or the defaults. -/
  reading : ∀ worker ∈ (pool.chronicle schedule).pool.workers, ∀ form
    (next : Settings → Code Memory form) (callers : Callers Memory worker.last form),
    worker.focus = .code (.ask .settings next) callers →
      let machine := worker.machine (pool.chronicle schedule).pool.host
      machine.next.focus = .code (next ((fixedBy (pool.uses schedule)).getD {})) callers
  /-- Who installs some next is told a fault of these, or that others are fixed, and changes nothing
  then; otherwise the installation succeeds. -/
  installing : ∀ worker ∈ (pool.chronicle schedule).pool.workers, ∀ form loaded
    (next : Except Settings.Fault Unit → Code Memory form)
    (callers : Callers Memory worker.last form),
    worker.focus = .code (Code.installing loaded next) callers →
      let machine := worker.machine (pool.chronicle schedule).pool.host
      ∃ moves ≤ 1, ∃ answer after, machine.moves moves = ⟨.code (next answer) callers, after⟩ ∧
        (answer = .ok () ↔ ∃ settings, loaded = .ok settings ∧ settings.fault? = none ∧
          ∀ use ∈ pool.uses schedule, use.fixes? = none) ∧
        ∀ fault,
          (answer = .error fault ↔
            loaded = .error fault ∨ ∃ settings, loaded = .ok settings ∧
              (settings.fault? = some fault ∨ settings.fault? = none ∧ fault = .alreadyInstalled ∧
                ∃ use ∈ pool.uses schedule, use.fixes? ≠ none)) ∧
          (answer = .error fault → after = machine.host)

theorem Machine.moves_installing {host : Host Memory} {uses : List Use}
    (fixed : host.settings = fixedBy uses) (loaded : Except Settings.Fault Settings)
    (next : Except Settings.Fault Unit → Code Memory form) (callers : Callers Memory last form) :
    ∃ moves ≤ 1, ∃ after, Machine.moves moves ⟨.code (Code.installing loaded next) callers, host⟩ =
        ⟨.code (next (verdict uses loaded)) callers, after⟩ ∧
      ∀ fault, verdict uses loaded = .error fault → after = host := by
  cases loaded with
  | error fault => exact ⟨0, Nat.zero_le 1, host, rfl, fun _ _ => rfl⟩
  | ok settings =>
      refine ⟨1, Nat.le_refl 1, (host.install settings).2, ?_, ?_⟩
      · have answers : (host.install settings).1 = verdict uses (.ok settings) := by
          simp only [Host.install, verdict, fixed]
          cases settings.fault? <;> cases fixedBy uses <;> rfl
        rw [← answers]
        rfl
      · intro fault failed
        simp only [Host.install, verdict, fixed] at failed ⊢
        cases faulty : settings.fault? with
        | some first => rfl
        | none =>
            cases found : fixedBy uses with
            | some other => rfl
            | none => simp [faulty, found] at failed

/-- The settings are fixed by what first reads or installs them, as a loop does with two frames. -/
theorem first_use_fixes_settings (memory : Memory)
    (codes : List (Option String × Code Memory .unit)) (slim : ∀ entry ∈ codes, entry.2.Slim)
    (schedule : List Nat) : (Pool.opening memory codes).FixesSettings schedule := by
  obtain ⟨follow, settings⟩ := Pool.settles_chronicle memory slim schedule
  have spares := Pool.spares_chronicle memory slim schedule
  have fixed : ((Pool.opening memory codes).chronicle schedule).pool.host.settings =
      fixedBy ((Pool.opening memory codes).uses schedule) := settings
  have follow : Follow none ((Pool.opening memory codes).uses schedule) := follow
  generalize Pool.opening memory codes = pool at follow fixed spares ⊢
  constructor
  case fixed => exact fixed
  case spared =>
    intro unused
    exact spares (fixed.trans (Settings.fixedBy_eq_none_iff.2 unused))
  case read =>
    intro found member
    have same : fixedBy (pool.uses schedule) = some found := follow.read_eq member
    exact ⟨same, follow.fault?_eq same⟩
  case once => exact follow.countP_isInstalled_le
  case refused => exact fun _ _ => follow.refused_cases
  case reading =>
    intro worker _ form next callers focused machine
    have reads : machine.next.focus = .code (next machine.host.readSettings.1) callers := by
      simp only [machine, Worker.machine, focused]
      rfl
    have found : machine.host.readSettings.1 = machine.host.settings.getD {} := by
      unfold Host.readSettings
      split <;> simp_all
    rw [reads, found]
    exact congrArg
      (fun settings : Option Settings => Focus.code (next (settings.getD {})) callers) fixed
  case installing =>
    intro worker _ form loaded next callers focused machine
    have goes : machine = ⟨.code (Code.installing loaded next) callers, machine.host⟩ := by
      simp only [machine, Worker.machine, focused]
    have fixed' : machine.host.settings = fixedBy (pool.uses schedule) := fixed
    obtain ⟨moves, few, after, moved, fails⟩ :=
      Machine.moves_installing fixed' loaded next callers
    rw [← goes] at moved
    exact ⟨moves, few, _, after, moved, Settings.verdict_eq_ok_iff, fun fault =>
      ⟨Settings.verdict_eq_error_iff, fails fault⟩⟩

/-- Install settings with a fault, run a plan with one frame, and install others twice. -/
def Code.configuring : Code Memory .unit :=
  let plan : Plan Memory := .map (.pure (.datum .null)) fun value => Code.value value
  .installing (.ok { stackCapacity := 0 }) fun _ =>
    .runSync plan .uncancelable fun _ =>
      .installing (.ok { stackCapacity := 8 }) fun _ =>
        .installing (.ok {}) fun _ => .ask .settings fun _ => Code.unit

theorem Code.slim_configuring : (configuring : Code Memory .unit).Slim :=
  .ask fun _ => .runSync (.map .pure fun _ => .done .value) fun _ =>
    .ask fun _ => .ask fun _ => .ask fun _ => .unit

theorem first_use_fixes_settings_configuring :
    let codes : List (Option String × Code Unit .unit) := [(none, Code.configuring)]
    let schedule := List.replicate 16 0
    (∀ entry ∈ codes, entry.2.Slim) ∧ (Pool.opening () codes).FixesSettings schedule ∧
      (Pool.opening () codes).uses schedule =
        [.refused { stackCapacity := 0 }
            (.invalid "initial_stack_capacity" "must be at least 1"),
          .installed { stackCapacity := 8 }, .refused {} .alreadyInstalled,
          .read { stackCapacity := 8 }] := by
  have slim : ∀ entry ∈ [((none : Option String), (Code.configuring : Code Unit .unit))],
      entry.2.Slim := by
    intro entry member
    obtain rfl := List.mem_singleton.1 member
    exact Code.slim_configuring
  exact ⟨slim, first_use_fixes_settings () _ slim _, by decide +kernel⟩

/-! ### What is told of them -/

/-- Who asks which settings were installed is told those that were; but so are the defaults, once they
have been read. -/
theorem installed_settings_are_first_use (memory : Memory)
    (codes : List (Option String × Code Memory .unit)) (slim : ∀ entry ∈ codes, entry.2.Slim)
    (schedule : List Nat) :
    let pool := Pool.opening memory codes
    ∀ worker ∈ (pool.chronicle schedule).pool.workers, ∀ form
      (next : Option Settings → Code Memory form) (callers : Callers Memory worker.last form),
      worker.focus = .code (.ask .installedSettings next) callers →
        let machine := worker.machine (pool.chronicle schedule).pool.host
        ∃ told, machine.next = ⟨.code (next told) callers, machine.host⟩ ∧
          ∀ settings, told = some settings ↔
            .installed settings ∈ pool.uses schedule ∨
              settings = {} ∧ (∀ other, .installed other ∉ pool.uses schedule) ∧
                ∃ use ∈ pool.uses schedule, use.isRead = true := by
  intro pool worker _ form next callers focused machine
  obtain ⟨follow, settings⟩ := Pool.settles_chronicle memory slim schedule
  have fixed : machine.host.settings = fixedBy (pool.uses schedule) := settings
  have follow : Follow none (pool.uses schedule) := follow
  refine ⟨machine.host.settings, ?_, fun settings => ?_⟩
  · simp only [machine, Worker.machine, focused]
    rfl
  · rw [fixed]
    exact follow.fixedBy_eq_some_iff

def Code.inquiring : Code Memory .unit :=
  .ask .installedSettings fun _ => Code.unit

/-- Settings that were installed are told. -/
theorem installed_settings_are_first_use_installed :
    let codes : List (Option String × Code Unit .unit) :=
      [(none, .installing (.ok { stackCapacity := 8 }) fun _ => Code.inquiring)]
    let pool := ((Pool.opening () codes).chronicle [0]).pool
    let worker : Worker Unit := ⟨.code Code.inquiring .bottom, { name := none }⟩
    (∀ entry ∈ codes, entry.2.Slim) ∧ pool.workers = [worker] ∧
      ∃ told, (worker.machine pool.host).next =
          ⟨.code Code.unit .bottom, (worker.machine pool.host).host⟩ ∧
        told = some ({ stackCapacity := 8 } : Settings) := by
  have slim : ∀ entry ∈ [((none : Option String), (Code.installing (.ok { stackCapacity := 8 })
      fun _ => Code.inquiring : Code Unit .unit))], entry.2.Slim := by
    intro entry member
    obtain rfl := List.mem_singleton.1 member
    exact .ask fun _ => .ask fun _ => .unit
  refine ⟨slim, rfl, ?_⟩
  obtain ⟨told, goes, tells⟩ := installed_settings_are_first_use () _ slim [0] _ (.head _) _ _ _ rfl
  exact ⟨told, goes, (tells _).2 (.inl (by decide +kernel))⟩

def Code.recording : Code (Option (Option Settings)) .unit :=
  .ask .installedSettings fun told => .ask (.modify fun _ => some told) fun _ => Code.unit

/-- The defaults are told where nothing was installed: they have been read, or a run has had two
frames pending. -/
theorem defaults_told_as_installed :
    let nested : Plan (Option (Option Settings)) :=
      .map (.map (.pure (.datum .null)) fun value => Code.value value) fun value => Code.value value
    let read := Pool.opening none [(none, .ask .settings fun _ => Code.recording)]
    let ran := Pool.opening none [(none, .runSync nested .uncancelable fun _ => Code.recording)]
    let schedule := List.replicate 20 0
    (read.uses schedule = [.read {}] ∧
        (read.chronicle schedule).pool.host.memory = some (some {})) ∧
      (ran.uses schedule).countP Use.isInstalled = 0 ∧
        (ran.chronicle schedule).pool.host.memory = some (some {}) := by
  decide +kernel

end Trampoline
