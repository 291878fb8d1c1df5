import Mathlib.Algebra.Group.Nat.Defs
import PubSub.Transport.Topic

/-!
Queues and the newest of their samples.  A keep-last queue has at most as many samples as its depth, as long
as that is read as it was written; then its counter tells how many there are, and what it keeps of all that
was put into it are the newest.
-/

namespace PubSub

namespace Qos

variable {Item : Type}

def newest (qos : Qos) (items : List Item) : List Item :=
  items.drop (Transport.excess qos items.length)

structure Sized (qos : Qos) : Prop where
  settled : qos.history ≠ .systemDefault
  positive : qos.history = .keepLast → 0 < qos.depth.toNat
  small : qos.depth.toNat < 2 ^ 63

/-- A profile that keeps everything, or so many of the newest that a signed word can count them. -/
structure Countable (qos : Qos) : Prop where
  settled : qos.history ≠ .systemDefault
  bound : qos.history = .keepLast → 0 < qos.depth.toNat ∧ qos.depth.toNat < 2 ^ 63

theorem Sized.countable {qos : Qos} (sized : qos.Sized) : qos.Countable :=
  ⟨sized.settled, fun last => ⟨sized.positive last, sized.small⟩⟩

theorem sized_resolve (qos : Qos) (small : qos.depth.toNat < 2 ^ 63) : qos.resolve.Sized := by
  constructor
  · unfold resolve
    cases qos.history <;> simp
  · unfold resolve
    dsimp only
    generalize (if qos.history = .systemDefault then History.keepLast else qos.history) = history
    intro last
    subst last
    by_cases zero : qos.depth = 0
    · rw [if_pos ⟨rfl, zero⟩]
      decide
    · rw [if_neg (fun both => zero both.2)]
      exact Nat.pos_of_ne_zero (fun none => zero (UInt64.toNat_inj.mp none))
  · unfold resolve
    dsimp only
    generalize (if qos.history = .systemDefault then History.keepLast else qos.history) = history
    by_cases default : history = .keepLast ∧ qos.depth = 0
    · rw [if_pos default]
      decide
    · rw [if_neg default]
      exact small

theorem newest_sublist (qos : Qos) (items : List Item) : (qos.newest items).Sublist items :=
  List.drop_sublist _ items

theorem map_newest {Other : Type} (qos : Qos) (change : Item → Other) (items : List Item) :
    (qos.newest items).map change = qos.newest (items.map change) := by
  unfold newest
  rw [List.map_drop, List.length_map]

/-- What was displaced once is not missed later. -/
theorem newest_append (qos : Qos) (items more : List Item) :
    qos.newest (qos.newest items ++ more) = qos.newest (items ++ more) := by
  unfold newest Transport.excess
  by_cases last : qos.history = .keepLast
  · simp only [if_pos last, List.length_append, List.length_drop]
    rw [← List.drop_append_of_le_length (Nat.sub_le _ _), List.drop_drop]
    congr 1
    omega
  · simp only [if_neg last, List.drop_zero]

theorem excess_newest (qos : Qos) (items : List Item) :
    Transport.excess qos (qos.newest items).length = 0 := by
  unfold newest Transport.excess
  by_cases last : qos.history = .keepLast
  · simp only [if_pos last, List.length_drop]
    omega
  · simp only [if_neg last]

theorem newest_of_excess {qos : Qos} {items : List Item}
    (none : Transport.excess qos items.length = 0) : qos.newest items = items := by
  unfold newest
  rw [none, List.drop_zero]

end Qos

namespace SampleQueue

variable {queue : SampleQueue} {qos : Qos}

/-- A queue of a profile, whose counter tells how many samples wait, and no more wait than are kept. -/
structure Fits (queue : SampleQueue) (qos : Qos) : Prop where
  keepAll : queue.keepAll = decide (qos.history = .keepAll)
  depth : queue.depth = qos.depth
  counted : queue.count = queue.waiting.length
  bounded : Transport.excess qos queue.waiting.length = 0

theorem fits_ofQos (qos : Qos) : (ofQos qos).Fits qos := by
  refine ⟨rfl, rfl, rfl, ?_⟩
  unfold Transport.excess ofQos
  split
  · exact Nat.zero_sub _
  · rfl

theorem makeRoom_left (limit : Nat) (waiting : List Nat) :
    (makeRoom limit waiting waiting.length).2.1 = waiting.drop (waiting.length + 1 - limit) := by
  induction waiting with
  | nil => rw [List.drop_nil, makeRoom]
  | cons oldest rest ih =>
      unfold makeRoom
      rw [List.length_cons]
      by_cases full : (limit : Int) ≤ ((rest.length + 1 : Nat) : Int)
      · have less : ((rest.length + 1 : Nat) : Int) - 1 = (rest.length : Int) := by omega
        have more : rest.length + 1 + 1 - limit = (rest.length + 1 - limit) + 1 := by omega
        rw [if_pos full, less, more, List.drop_succ_cons]
        exact ih
      · have none : rest.length + 1 + 1 - limit = 0 := by omega
        rw [if_neg full, none, List.drop_zero]

theorem Fits.limit (fits : queue.Fits qos) (small : qos.depth.toNat < 2 ^ 63) : queue.limit = qos.depth.toNat := by
  have small : qos.depth.toNat < 0x8000000000000000 := small
  unfold SampleQueue.limit
  rw [fits.depth, if_pos small]

theorem Fits.waiting_push (fits : queue.Fits qos) (countable : qos.Countable) (sample : Nat) :
    (queue.push sample).2.waiting = qos.newest (queue.waiting ++ [sample]) := by
  unfold push Qos.newest Transport.excess
  rw [fits.keepAll]
  cases history : qos.history with
  | systemDefault => exact absurd history countable.settled
  | keepAll => simp
  | keepLast =>
      obtain ⟨positive, small⟩ := countable.bound history
      have left := makeRoom_left qos.depth.toNat queue.waiting
      simp only [reduceCtorEq, decide_false, Bool.false_eq_true, ↓reduceIte, List.length_append,
        List.length_singleton, fits.limit small, fits.counted]
      rw [left, List.drop_append_of_le_length]
      omega

theorem Fits.push (fits : queue.Fits qos) (countable : qos.Countable) (sample : Nat) :
    (queue.push sample).2.Fits qos := by
  have waiting := fits.waiting_push countable sample
  refine ⟨?_, ?_, ?_, ?_⟩
  · rw [← fits.keepAll]
    unfold SampleQueue.push
    split <;> rfl
  · rw [← fits.depth]
    unfold SampleQueue.push
    split <;> rfl
  · unfold SampleQueue.push
    have counts := makeRoom_count queue.limit queue.waiting queue.count
    have counted := fits.counted
    generalize makeRoom queue.limit queue.waiting queue.count = made at counts ⊢
    obtain ⟨dropped, left, count⟩ := made
    split <;> simp only [List.length_append, List.length_singleton] at counts ⊢ <;> omega
  · rw [waiting]
    exact qos.excess_newest _

/-- The front is what was put in first of all that waits. -/
theorem Fits.pop (fits : queue.Fits qos) {sample : Nat} {changed : SampleQueue}
    (popped : queue.pop = some (sample, changed)) :
    queue.waiting = sample :: changed.waiting ∧ changed.Fits qos := by
  unfold SampleQueue.pop at popped
  cases content : queue.waiting with
  | nil => simp [content] at popped
  | cons oldest rest =>
      simp only [content, Option.some.injEq, Prod.mk.injEq] at popped
      obtain ⟨rfl, rfl⟩ := popped
      have counted := fits.counted
      have bounded := fits.bounded
      refine ⟨rfl, fits.keepAll, fits.depth, ?_, ?_⟩
      · rw [content, List.length_cons] at counted
        dsimp only
        omega
      · unfold Transport.excess at bounded ⊢
        rw [content, List.length_cons] at bounded
        dsimp only
        by_cases last : qos.history = .keepLast
        · rw [if_pos last] at bounded ⊢
          omega
        · exact if_neg last

def pushAll (queue : SampleQueue) (samples : List Nat) : SampleQueue :=
  samples.foldl (fun current sample => (current.push sample).2) queue

/-- However many samples were put into a queue, the newest wait. -/
theorem Fits.pushAll (fits : queue.Fits qos) (countable : qos.Countable) (samples : List Nat) :
    (queue.pushAll samples).Fits qos ∧
      (queue.pushAll samples).waiting = qos.newest (queue.waiting ++ samples) := by
  induction samples generalizing queue with
  | nil =>
      refine ⟨fits, ?_⟩
      rw [List.append_nil, Qos.newest_of_excess fits.bounded]
      rfl
  | cons sample rest ih =>
      obtain ⟨later, waiting⟩ := ih (fits.push countable sample)
      refine ⟨later, waiting.trans ?_⟩
      rw [fits.waiting_push countable, Qos.newest_append, List.append_assoc, List.singleton_append]

end SampleQueue

end PubSub
