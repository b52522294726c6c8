import Trampoline.Plan

/-!
Stacks of frames are lists, last in first out.

A stack keeps its top frame apart from the overflow, and a pop may leave the place of the top frame
empty while frames remain below.  None of that shows: whatever is pushed and popped, a stack gives
the frames that a plain list gives, and is as long.
-/

namespace Trampoline

variable {Memory : Type}

namespace Frame

def isHandler : Frame Memory → Bool
  | .handle _ => true
  | .bind _ | .map _ | .redeem _ _ | .restore _ _ => false

def isContinuation : Frame Memory → Bool
  | .bind _ | .map _ => true
  | .handle _ | .redeem _ _ | .restore _ _ => false

theorem not_acceptsValue : (fun frame : Frame Memory => !frame.acceptsValue) = isHandler := by
  funext frame
  cases frame <;> rfl

theorem not_acceptsFailure :
    (fun frame : Frame Memory => !frame.acceptsFailure) = isContinuation := by
  funext frame
  cases frame <;> rfl

end Frame

namespace Stack

section

variable {Frame : Type}

theorem isEmpty_eq (stack : Stack Frame) : stack.isEmpty = stack.toList.isEmpty := by
  rcases stack with ⟨_ | top, overflow⟩
  · rcases overflow with ⟨_ | ⟨frame, frames⟩⟩ <;> simp [isEmpty, toList]
  · simp [isEmpty, toList]

/-- Popping drops the frames that are not accepted and takes the next one, if there is one. -/
theorem popWhere_eq (accepts : Frame → Bool) (stack : Stack Frame) :
    (stack.popWhere accepts).1 = (stack.toList.dropWhile (!accepts ·)).head? ∧
      (stack.popWhere accepts).2.toList = (stack.toList.dropWhile (!accepts ·)).tail := by
  induction stack using popWhere.induct accepts with
  | case1 stack popped =>
      rw [popWhere_of_none popped, pop_eq_none popped]
      exact ⟨rfl, rfl⟩
  | case2 stack frame rest popped accepted =>
      rw [popWhere_of_some popped, if_pos accepted, pop_eq_some popped,
        List.dropWhile_cons_of_neg (by simp [accepted])]
      exact ⟨rfl, rfl⟩
  | case3 stack frame rest popped refused inductionHypothesis =>
      rw [popWhere_of_some popped, if_neg refused, pop_eq_some popped,
        List.dropWhile_cons_of_pos (by simp [refused])]
      exact inductionHypothesis

end

inductive Action (Memory : Type) where
  | push (frame : Frame Memory)
  /-- Take the next frame that takes a value. -/
  | popValue
  /-- Take the next frame that takes a failure. -/
  | popFailure

namespace Action

/-- What an action takes off a stack, and the stack that it leaves. -/
def onStack (stack : Stack (Frame Memory)) :
    Action Memory → Option (Frame Memory) × Stack (Frame Memory)
  | .push frame => (none, stack.push frame)
  | .popValue => stack.popWhere Frame.acceptsValue
  | .popFailure => stack.popWhere Frame.acceptsFailure

/-- What an action takes off a list of frames, the next one first, and the list that it leaves. -/
def onList (frames : List (Frame Memory)) :
    Action Memory → Option (Frame Memory) × List (Frame Memory)
  | .push frame => (none, frame :: frames)
  | .popValue =>
      let accepted := frames.dropWhile Frame.isHandler
      (accepted.head?, accepted.tail)
  | .popFailure =>
      let accepted := frames.dropWhile Frame.isContinuation
      (accepted.head?, accepted.tail)

def all {State : Type} (act : State → Action Memory → Option (Frame Memory) × State) :
    State → List (Action Memory) → List (Option (Frame Memory)) × State
  | state, [] => ([], state)
  | state, action :: actions =>
      let (taken, after) := act state action
      let (others, last) := all act after actions
      (taken :: others, last)

theorem onStack_eq (stack : Stack (Frame Memory)) (action : Action Memory) :
    (onStack stack action).1 = (onList stack.toList action).1 ∧
      (onStack stack action).2.toList = (onList stack.toList action).2 := by
  cases action with
  | push frame => exact ⟨rfl, toList_push frame stack⟩
  | popValue =>
      have popped := stack.popWhere_eq Frame.acceptsValue
      rwa [Frame.not_acceptsValue] at popped
  | popFailure =>
      have popped := stack.popWhere_eq Frame.acceptsFailure
      rwa [Frame.not_acceptsFailure] at popped

/-- Whatever a stack holds at first, actions do to it what they do to the list of its frames. -/
theorem all_onStack_eq (actions : List (Action Memory)) (stack : Stack (Frame Memory)) :
    (all onStack stack actions).1 = (all onList stack.toList actions).1 ∧
      (all onStack stack actions).2.toList = (all onList stack.toList actions).2 := by
  induction actions generalizing stack with
  | nil => exact ⟨rfl, rfl⟩
  | cons action actions inductionHypothesis =>
      obtain ⟨taken, left⟩ := onStack_eq stack action
      obtain ⟨others, last⟩ := inductionHypothesis (onStack stack action).2
      rw [left] at others last
      simp only [all]
      exact ⟨by rw [taken, others], last⟩

end Action

end Stack

open Stack.Action (all onStack onList all_onStack_eq)

/-- A stack that was empty at first stands for its top frame before the overflow from its end: a push
adds a frame to that list, a pop drops the frames that only take the other kind of result and takes
the next one, and the stack is as long as the list. -/
theorem stacks_are_lists (actions : List (Stack.Action Memory)) :
    let (taken, stack) := all onStack {} actions
    let (expected, frames) := all onList [] actions
    taken = expected ∧ stack.top.toList ++ stack.overflow.toList.reverse = frames ∧
      stack.size = frames.length ∧ stack.isEmpty = frames.isEmpty := by
  obtain ⟨taken, left⟩ := all_onStack_eq actions {}
  refine ⟨taken, left, ?_, ?_⟩
  · rw [← Stack.length_toList]
    exact congrArg List.length left
  · rw [Stack.isEmpty_eq]
    exact congrArg List.isEmpty left

/-- A frame may be left in the overflow alone. -/
example (first second : Frame Memory) (continues : second.acceptsValue = true) :
    (all onStack {} [.push first, .push second, .popValue]).2 = ⟨none, #[first]⟩ := by
  have popped : Stack.pop ⟨some second, #[first]⟩ = some (second, ⟨none, #[first]⟩) := rfl
  simp [all, onStack, Stack.push, Stack.popWhere_of_some popped, continues]

end Trampoline
