import Trampoline.Proofs.Likeness
import Trampoline.Proofs.Refusal

/-!
What a run does, with the runs that are nested in it.

The transcript of a run says what it has asked and been answered, in order.  A boundary for a nested
run has the transcript of that run in its place.  A hop asks its context besides, which takes the
source of the hop or refuses it.  Boundaries and hops that are hidden do not show.
-/

namespace Trampoline

variable {Memory : Type}

inductive Moment (Memory : Type) where
  | asked (query : Query Memory)
  | replied (reply : Reply Memory)

/-- What happens without a boundary shows by itself. -/
def Happening.shown : Happening Memory → List (Moment Memory)
  | .called call token => [.asked (.call call token)]
  | .answered answer => [.replied (.answered answer)]
  | .panicked panic => [.replied (.panicked panic)]
  | .recalled kept plan => [.asked (.lookUp kept), .replied (.recalled plan)]
  | _ => []

def Happening.isPassage : Happening Memory → Bool
  | .reached _ _ _ _ | .crossed _ _ => true
  | _ => false

/-- Whether a boundary is for a nested run. -/
def Registration.isNested : Registration Memory → Bool
  | .calling _ => false
  | .hopping _ _ | .finishing _ _ => true

section Transcript

variable (hidden : Registration Memory → Bool)
  (nested : Registration Memory → Nat → Token → List (Moment Memory))

/-- What a boundary shows when it is reached. -/
def Registration.opening (registration : Registration Memory) (epoch : Nat) (token : Token) :
    List (Moment Memory) :=
  match registration with
  | .calling register =>
      if hidden (.calling register) then [] else [.asked (.reach (.calling register) token)]
  | .hopping _ _ | .finishing _ _ => nested registration epoch token

/-- What a boundary shows when it is crossed. -/
def Registration.closing (registration : Registration Memory) (outcome : Outcome Value) :
    List (Moment Memory) :=
  match registration with
  | .calling register => if hidden (.calling register) then [] else [.replied (.crossed outcome)]
  | .hopping _ _ | .finishing _ _ => []

/-- The transcript of what happens to a run, which may be at a boundary at first. -/
def transcript (boundary? : Option (Registration Memory)) :
    List (Happening Memory) → List (Moment Memory)
  | [] => []
  | .reached epoch registration token _ :: rest =>
      registration.opening hidden nested epoch token ++ transcript (some registration) rest
  | .crossed _ outcome :: rest =>
      boundary?.toList.flatMap (·.closing hidden outcome) ++ transcript none rest
  | happening :: rest => happening.shown ++ transcript boundary? rest

theorem transcript_append {boundary? : Option (Registration Memory)}
    {happenings : List (Happening Memory)}
    (inner : ∀ happening ∈ happenings, happening.isPassage = false)
    (rest : List (Happening Memory)) :
    transcript hidden nested boundary? (happenings ++ rest) =
      happenings.flatMap Happening.shown ++ transcript hidden nested boundary? rest := by
  induction happenings with
  | nil => rfl
  | cons happening happenings inductionHypothesis =>
      have later := inductionHypothesis fun other member => inner other (.tail _ member)
      have here := inner happening (.head _)
      rw [List.flatMap_cons, List.append_assoc, ← later]
      cases happening <;> first | rfl | cases here

def boundaryAfter (boundary? : Option (Registration Memory)) :
    List (Happening Memory) → Option (Registration Memory)
  | [] => boundary?
  | .reached _ registration _ _ :: rest => boundaryAfter (some registration) rest
  | .crossed _ _ :: rest => boundaryAfter none rest
  | _ :: rest => boundaryAfter boundary? rest

theorem boundaryAfter_append (boundary? : Option (Registration Memory))
    (happenings rest : List (Happening Memory)) :
    boundaryAfter boundary? (happenings ++ rest) =
      boundaryAfter (boundaryAfter boundary? happenings) rest := by
  induction happenings generalizing boundary? with
  | nil => rfl
  | cons happening happenings inductionHypothesis =>
      rw [List.cons_append]
      cases happening <;> simp only [boundaryAfter, inductionHypothesis]

theorem transcript_append_after (boundary? : Option (Registration Memory))
    (happenings rest : List (Happening Memory)) :
    transcript hidden nested boundary? (happenings ++ rest) =
      transcript hidden nested boundary? happenings ++
        transcript hidden nested (boundaryAfter boundary? happenings) rest := by
  induction happenings generalizing boundary? with
  | nil => rfl
  | cons happening happenings inductionHypothesis =>
      rw [List.cons_append]
      cases happening <;>
        simp only [transcript, boundaryAfter, inductionHypothesis, List.append_assoc]

variable {epoch : Nat} {registration : Registration Memory} {token current : Token}
  {saved : Stack (Frame Memory)} {outcome : Outcome Value} {rest : List (Happening Memory)}
  {register : Token → Completer → Code Memory .unit}

theorem transcript_reached :
    transcript hidden nested none
        (.looked current false :: .reached epoch registration token saved :: rest) =
      registration.opening hidden nested epoch token ++
        transcript hidden nested (some registration) rest := rfl

theorem transcript_crossed :
    transcript hidden nested (some registration) (.crossed epoch outcome :: rest) =
      registration.closing hidden outcome ++ transcript hidden nested none rest := by
  simp [transcript]

theorem transcript_reached_kept (kept : hidden (.calling register) = false) :
    transcript hidden nested none
        (.looked current false :: .reached epoch (.calling register) token saved :: rest) =
      .asked (.reach (.calling register) token) ::
        transcript hidden nested (some (.calling register)) rest := by
  simp [transcript_reached, Registration.opening, kept]

theorem transcript_crossed_kept (kept : hidden (.calling register) = false) :
    transcript hidden nested (some (.calling register)) (.crossed epoch outcome :: rest) =
      .replied (.crossed outcome) :: transcript hidden nested none rest := by
  simp [transcript_crossed, Registration.closing, kept]

theorem transcript_reached_hidden (hides : hidden (.calling register) = true) :
    transcript hidden nested none
        (.looked current false :: .reached epoch (.calling register) token saved :: rest) =
      transcript hidden nested (some (.calling register)) rest := by
  simp [transcript_reached, Registration.opening, hides]

theorem transcript_crossed_hidden (hides : hidden (.calling register) = true) :
    transcript hidden nested (some (.calling register)) (.crossed epoch outcome :: rest) =
      transcript hidden nested none rest := by
  simp [transcript_crossed, Registration.closing, hides]

theorem transcript_reached_nested (isNested : registration.isNested = true) :
    transcript hidden nested none
        (.looked current false :: .reached epoch registration token saved :: rest) =
      nested registration epoch token ++
        transcript hidden nested (some registration) rest := by
  cases registration <;> first | rfl | cases isNested

theorem transcript_crossed_nested (isNested : registration.isNested = true) :
    transcript hidden nested (some registration) (.crossed epoch outcome :: rest) =
      transcript hidden nested none rest := by
  rw [transcript_crossed]
  cases registration <;> first | rfl | cases isNested

end Transcript

def Receiver.isFor (completer : Completer) : Receiver Memory → Bool
  | .forward other => decide (other = completer)
  | .code _ | .nobody => false

def nestedRun? (runs : Array (Run Memory)) (completer : Completer) : Option Nat :=
  runs.findIdx? fun entry => entry.receiver.isFor completer

namespace Chronicle

variable (chronicle : Chronicle Memory) (hidden : Registration Memory → Bool) (run : Nat)

/-- The nested run that a boundary is left to, if it is not refused. -/
def innerRun? (epoch : Nat) : Option Nat :=
  match chronicle.refusal? run epoch with
  | some _ => none
  | none => nestedRun? chronicle.pool.host.runs ⟨run, epoch⟩

/-- How the context of a hop has replied, if it has: it has taken the source, or panicked. -/
def taking (epoch : Nat) : Option (Reply Memory) :=
  match chronicle.refusal? run epoch with
  | some outcome => some (.crossed outcome)
  | none => (nestedRun? chronicle.pool.host.runs ⟨run, epoch⟩).map fun _ => .answered .unit

def hop (registration : Registration Memory) (epoch : Nat) (token : Token) :
    List (Moment Memory) :=
  match registration with
  | .hopping _ _ =>
      .asked (.reach registration token) :: (chronicle.taking run epoch).toList.map .replied
  | .calling _ | .finishing _ _ => []

/-- The transcript of a run; nested runs start later. -/
def transcript (run : Nat) : List (Moment Memory) :=
  Trampoline.transcript hidden (fun registration epoch token =>
    (if hidden registration then [] else chronicle.hop run registration epoch token) ++
      match chronicle.innerRun? run epoch with
      | none => []
      | some nested =>
          if _later : run < nested ∧ nested < chronicle.pool.host.runs.size then
            transcript nested
          else []) none (course run chronicle.history)
termination_by chronicle.pool.host.runs.size - run

end Chronicle

end Trampoline
