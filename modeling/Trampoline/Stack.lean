/-!
Stacks of frames in two parts: a slot for the top frame, and an overflow that is needed only once
two frames are pending.

`toList` is the stack as a plain list, the next frame to be popped first.  A pop may leave the slot
empty while frames remain in the overflow.
-/

namespace Trampoline

structure Stack (Frame : Type) where
  top : Option Frame := none
  /-- The frames below the top, the lowest first. -/
  overflow : Array Frame := #[]

namespace Stack

variable {Frame : Type}

instance : Inhabited (Stack Frame) := ⟨{}⟩

def toList (stack : Stack Frame) : List Frame :=
  stack.top.toList ++ stack.overflow.toList.reverse

def size (stack : Stack Frame) : Nat :=
  stack.top.toList.length + stack.overflow.size

def isEmpty (stack : Stack Frame) : Bool :=
  stack.top.isNone && stack.overflow.isEmpty

/-- Whether a push now moves a frame to the overflow. -/
def isOccupied (stack : Stack Frame) : Bool :=
  stack.top.isSome

def push (frame : Frame) (stack : Stack Frame) : Stack Frame :=
  match stack with
  | ⟨none, overflow⟩ => ⟨some frame, overflow⟩
  | ⟨some previous, overflow⟩ => ⟨some frame, overflow.push previous⟩

def pop (stack : Stack Frame) : Option (Frame × Stack Frame) :=
  match stack with
  | ⟨some frame, overflow⟩ => some (frame, ⟨none, overflow⟩)
  | ⟨none, overflow⟩ => overflow.back?.map fun frame => (frame, ⟨none, overflow.pop⟩)

@[simp]
theorem toList_push (frame : Frame) (stack : Stack Frame) :
    (stack.push frame).toList = frame :: stack.toList := by
  rcases stack with ⟨_ | previous, overflow⟩ <;> simp [push, toList]

@[simp]
theorem length_toList (stack : Stack Frame) : stack.toList.length = stack.size := by
  simp [toList, size]

theorem pop_eq_some {frame : Frame} {stack rest : Stack Frame}
    (popped : stack.pop = some (frame, rest)) : stack.toList = frame :: rest.toList := by
  rcases stack with ⟨_ | top, overflow⟩
  · simp only [pop, Option.map_eq_some_iff] at popped
    obtain ⟨last, found, equality⟩ := popped
    injection equality with sameFrame sameRest
    subst sameFrame sameRest
    obtain ⟨front, rfl⟩ := Array.back?_eq_some_iff.1 found
    simp [toList]
  · simp only [pop, Option.some.injEq, Prod.mk.injEq] at popped
    obtain ⟨rfl, rfl⟩ := popped
    simp [toList]

theorem pop_eq_none {stack : Stack Frame} (popped : stack.pop = none) : stack.toList = [] := by
  rcases stack with ⟨_ | top, overflow⟩
  · simp only [pop, Option.map_eq_none_iff, Array.back?_eq_none_iff] at popped
    simp [toList, popped]
  · cases popped

theorem size_of_pop {frame : Frame} {stack rest : Stack Frame}
    (popped : stack.pop = some (frame, rest)) : rest.size < stack.size := by
  have listed := congrArg List.length (pop_eq_some popped)
  simp only [length_toList, List.length_cons] at listed
  omega

/-- Drop frames until one is accepted; take that one off.  Without such a frame nothing is left. -/
def popWhere (accepts : Frame → Bool) (stack : Stack Frame) : Option Frame × Stack Frame :=
  match _popped : stack.pop with
  | none => (none, {})
  | some (frame, rest) => if accepts frame then (some frame, rest) else popWhere accepts rest
termination_by stack.size
decreasing_by exact size_of_pop _popped

theorem popWhere_of_none {accepts : Frame → Bool} {stack : Stack Frame}
    (popped : stack.pop = none) : stack.popWhere accepts = (none, {}) := by
  rw [popWhere]
  split
  · rfl
  · simp_all

theorem popWhere_of_some {accepts : Frame → Bool} {frame : Frame} {stack rest : Stack Frame}
    (popped : stack.pop = some (frame, rest)) :
    stack.popWhere accepts =
      if accepts frame then (some frame, rest) else rest.popWhere accepts := by
  rw [popWhere]
  split <;> simp_all

/-- Below frames that are not accepted there is one that is, or nothing. -/
theorem popWhere_spec (accepts : Frame → Bool) (stack : Stack Frame) :
    ∃ skipped : List Frame, (∀ frame ∈ skipped, accepts frame = false) ∧
      match stack.popWhere accepts with
      | (none, _) => stack.toList = skipped
      | (some frame, below) =>
          accepts frame = true ∧ stack.toList = skipped ++ frame :: below.toList := by
  induction stack using popWhere.induct accepts with
  | case1 stack popped =>
      rw [popWhere_of_none popped]
      exact ⟨[], nofun, pop_eq_none popped⟩
  | case2 stack frame rest popped accepted =>
      rw [popWhere_of_some popped, if_pos accepted]
      exact ⟨[], nofun, accepted, pop_eq_some popped⟩
  | case3 stack frame rest popped refused inductionHypothesis =>
      rw [popWhere_of_some popped, if_neg refused, pop_eq_some popped]
      obtain ⟨skipped, allRefused, found⟩ := inductionHypothesis
      refine ⟨frame :: skipped, ?_, ?_⟩
      · simpa [refused] using allRefused
      · split <;> simp_all

end Stack

end Trampoline
