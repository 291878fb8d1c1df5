import Mathlib.Data.List.DropRight
import PubSub.Proofs.Delivery.Queue
import PubSub.Proofs.Shares.Transport

/-!
Queues as lists.  Whoever pushes, pops and asks for the size sees a list that keeps all that is put into it, or so
many of the newest; the counter and the loop that makes room cannot be told from it.  What is pushed leaves in the
order in which it came: it is popped, or dropped because the queue is full.
-/

namespace PubSub

/-- How many samples a profile keeps at most, if it says so. -/
def Qos.bound? (qos : Qos) : Option Nat :=
  if qos.history = .keepLast then some qos.depth.toNat else none

def lastOf (bound? : Option Nat) (items : List Nat) : List Nat :=
  match bound? with
  | none => items
  | some most => items.rtake most

namespace SampleQueue

inductive Call where
  | push (sample : Nat)
  | pop
  | size
  deriving DecidableEq, Repr

/-- What a queue answers.  No push is refused; it tells what was dropped for it. -/
inductive Answer where
  | pushed (dropped : List Nat)
  | popped (sample : Option Nat)
  | counted (number : Nat)
  deriving DecidableEq, Repr

def step (queue : SampleQueue) : Call → Answer × SampleQueue
  | .push sample => (.pushed (queue.push sample).1, (queue.push sample).2)
  | .pop =>
      match queue.pop with
      | none => (.popped none, queue)
      | some (sample, changed) => (.popped (some sample), changed)
  | .size => (.counted queue.size, queue)

/-- The same calls on a list, which drops its front where it has as many samples as it may. -/
def stepList (bound? : Option Nat) (content : List Nat) : Call → Answer × List Nat
  | .push sample =>
      (.pushed (if bound? = some content.length then content.take 1 else []), lastOf bound? (content ++ [sample]))
  | .pop => (.popped content.head?, content.tail)
  | .size => (.counted content.length, content)

section Runs

variable {State : Type} (step : State → Call → Answer × State)

def after (state : State) (calls : List Call) : State :=
  calls.foldl (fun current call => (step current call).2) state

def answers : State → List Call → List Answer
  | _, [] => []
  | state, call :: rest => (step state call).1 :: answers (step state call).2 rest

end Runs

def Call.pushed : Call → List Nat
  | push sample => [sample]
  | pop => []
  | size => []

namespace Answer

/-- What a call has taken out for its caller. -/
def taken : Answer → List Nat
  | pushed _ => []
  | popped sample => sample.toList
  | counted _ => []

/-- All that has left at a call. -/
def gone : Answer → List Nat
  | pushed dropped => dropped
  | popped sample => sample.toList
  | counted _ => []

theorem taken_sublist (answer : Answer) : answer.taken.Sublist answer.gone := by
  cases answer with
  | pushed dropped => exact List.nil_sublist dropped
  | popped sample => exact .refl _
  | counted number => exact .refl _

end Answer

variable {queue : SampleQueue} {qos : Qos}

theorem waiting_of_pop_none (popped : queue.pop = none) : queue.waiting = [] := by
  unfold pop at popped
  split at popped
  · assumption
  · cases popped

theorem newest_eq_lastOf (qos : Qos) (items : List Nat) : qos.newest items = lastOf qos.bound? items := by
  unfold Qos.newest Transport.excess Qos.bound?
  split
  · rfl
  · exact List.drop_zero

theorem Fits.size (fits : queue.Fits qos) : queue.size = queue.waiting.length := by
  unfold SampleQueue.size
  rw [fits.counted, Int.toNat_natCast]

theorem Fits.bounded_size (fits : queue.Fits qos) : ∀ most ∈ qos.bound?, queue.size ≤ most := by
  intro most member
  have bounded := fits.bounded
  rw [fits.size]
  unfold Qos.bound? at member
  unfold Transport.excess at bounded
  split at member
  · rename_i last
    cases member
    rw [if_pos last] at bounded
    omega
  · cases member

theorem Fits.dropped (fits : queue.Fits qos) (countable : qos.Countable) (sample : Nat) :
    (queue.push sample).1 = if qos.bound? = some queue.waiting.length then queue.waiting.take 1 else [] := by
  obtain ⟨left, split, pushed⟩ := queue.push_cases sample
  have front : (queue.push sample).1 = queue.waiting.take (queue.push sample).1.length := by
    rw [← split, List.take_left]
  have total := congrArg List.length split
  have kept := congrArg List.length (fits.waiting_push countable sample)
  have bounded := fits.bounded
  simp only [pushed, Qos.newest, Transport.excess, List.length_append, List.length_singleton, List.length_drop]
    at total kept bounded
  rw [Qos.bound?]
  by_cases last : qos.history = .keepLast
  · have positive := (countable.bound last).1
    simp only [if_pos last, Option.some.injEq] at kept bounded ⊢
    by_cases full : qos.depth.toNat = queue.waiting.length
    · rw [if_pos full, front, show (queue.push sample).1.length = 1 by omega]
    · rw [if_neg full, front, show (queue.push sample).1.length = 0 by omega, List.take_zero]
  · simp only [if_neg last, reduceCtorEq, ↓reduceIte] at kept ⊢
    rw [front, show (queue.push sample).1.length = 0 by omega, List.take_zero]

/-- One call on a queue and on the list of what waits in it: both answer alike, and stay alike. -/
theorem Fits.step (fits : queue.Fits qos) (countable : qos.Countable) (call : Call) :
    (queue.step call).2.Fits qos ∧
      stepList qos.bound? queue.waiting call = ((queue.step call).1, (queue.step call).2.waiting) := by
  cases call with
  | push sample =>
      refine ⟨fits.push countable sample, ?_⟩
      simp only [SampleQueue.step, stepList, fits.dropped countable, fits.waiting_push countable, newest_eq_lastOf]
  | pop =>
      unfold SampleQueue.step
      cases popped : queue.pop with
      | none =>
          refine ⟨fits, ?_⟩
          rw [waiting_of_pop_none popped]
          rfl
      | some outcome =>
          obtain ⟨front, later⟩ := fits.pop popped
          refine ⟨later, ?_⟩
          rw [front]
          rfl
  | size =>
      simp only [SampleQueue.step, stepList, fits.size]
      exact ⟨fits, trivial⟩

theorem gone_append (queue : SampleQueue) (call : Call) :
    (queue.step call).1.gone ++ (queue.step call).2.waiting = queue.waiting ++ call.pushed := by
  cases call with
  | push sample =>
      obtain ⟨left, split, waiting⟩ := queue.push_cases sample
      calc (queue.push sample).1 ++ (queue.push sample).2.waiting
          = (queue.push sample).1 ++ left ++ [sample] := by rw [waiting, List.append_assoc]
        _ = queue.waiting ++ [sample] := by rw [split]
  | pop =>
      unfold step
      cases popped : queue.pop with
      | none => exact (List.append_nil queue.waiting).symm
      | some outcome =>
          rw [waiting_of_pop popped]
          exact (List.append_nil _).symm
  | size => exact (List.append_nil queue.waiting).symm

theorem Fits.run (fits : queue.Fits qos) (countable : qos.Countable) (calls : List Call) :
    (after SampleQueue.step queue calls).Fits qos ∧
      after (stepList qos.bound?) queue.waiting calls = (after SampleQueue.step queue calls).waiting ∧
      answers (stepList qos.bound?) queue.waiting calls = answers SampleQueue.step queue calls := by
  induction calls generalizing queue with
  | nil => exact ⟨fits, rfl, rfl⟩
  | cons call rest ih =>
      obtain ⟨later, alike⟩ := fits.step countable call
      obtain ⟨last, content, answered⟩ := ih later
      refine ⟨last, ?_, ?_⟩
      · rw [after, List.foldl_cons, alike]
        exact content
      · rw [answers, alike, answered]
        rfl

theorem gone_run (queue : SampleQueue) (calls : List Call) :
    (answers step queue calls).flatMap Answer.gone ++ (after step queue calls).waiting =
      queue.waiting ++ calls.flatMap Call.pushed := by
  induction calls generalizing queue with
  | nil => exact (List.append_nil queue.waiting).symm
  | cons call rest ih =>
      have later : after step queue (call :: rest) = after step (queue.step call).2 rest := rfl
      rw [answers, List.flatMap_cons, List.append_assoc, later, ih, ← List.append_assoc, gone_append,
        List.flatMap_cons, List.append_assoc]

theorem taken_sublist_gone (given : List Answer) :
    (given.flatMap Answer.taken).Sublist (given.flatMap Answer.gone) := by
  induction given with
  | nil => exact .refl []
  | cons answer rest ih =>
      rw [List.flatMap_cons, List.flatMap_cons]
      exact answer.taken_sublist.append ih

/-- A queue that has the content of a list and its size, which is never beyond the bound. -/
structure Refines (queue : SampleQueue) (bound? : Option Nat) (content : List Nat) : Prop where
  waiting : queue.waiting = content
  size : queue.size = content.length
  bounded : ∀ most ∈ bound?, queue.size ≤ most

/--
From an empty queue on, calls are answered as by a list that keeps what the profile says, and the queue goes on
looking like that list.  What has left and what waits are together what was pushed, in order; so what was popped
and what waits are what was pushed, apart from what the pushes dropped.
-/
theorem refines_list (countable : qos.Countable) (calls : List Call) :
    answers step (ofQos qos) calls = answers (stepList qos.bound?) [] calls ∧
      (after step (ofQos qos) calls).Refines qos.bound? (after (stepList qos.bound?) [] calls) ∧
      (answers step (ofQos qos) calls).flatMap Answer.gone ++ after (stepList qos.bound?) [] calls =
        calls.flatMap Call.pushed ∧
      ((answers step (ofQos qos) calls).flatMap Answer.taken ++ after (stepList qos.bound?) [] calls).Sublist
        (calls.flatMap Call.pushed) := by
  obtain ⟨fits, content, answered⟩ := (fits_ofQos qos).run countable calls
  have accounts := (ofQos qos).gone_run calls
  have taken := taken_sublist_gone (answers step (ofQos qos) calls)
  have started : (ofQos qos).waiting = [] := rfl
  rw [started] at content answered accounts
  rw [List.nil_append, ← content] at accounts
  refine ⟨answered.symm, ⟨content.symm, ?_, fits.bounded_size⟩, accounts, ?_⟩
  · rw [content]
    exact fits.size
  · rw [← accounts]
    exact taken.append_right _

/-- With room for two, the third sample takes the place of the first. -/
theorem refines_list_third :
    Qos.Countable { Qos.standard with depth := 2 } ∧
      answers step (ofQos { Qos.standard with depth := 2 }) [.push 1, .push 2, .push 3, .pop, .size] =
        [.pushed [], .pushed [], .pushed [1], .popped (some 2), .counted 1] := by
  have countable : Qos.Countable { Qos.standard with depth := 2 } := ⟨by decide, fun _ => by decide⟩
  exact ⟨countable, (refines_list countable _).1.trans (by decide)⟩

end SampleQueue

end PubSub
