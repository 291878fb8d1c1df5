import PubSub.Qos
import PubSub.Transport.Sample

/-!
Sample queues: the samples that wait for one subscription, oldest first.  A keep-last queue makes room
before it takes a sample, as long as its counter has reached the depth; a keep-all queue grows.
-/

namespace PubSub

structure SampleQueue where
  keepAll : Bool
  depth : UInt64
  waiting : List Nat
  count : Int
  deriving DecidableEq, Repr, Inhabited

namespace SampleQueue

def ofQos (qos : Qos) : SampleQueue :=
  { keepAll := qos.history = .keepAll
    depth := qos.depth
    waiting := []
    count := 0 }

/-- The depth as the counter is compared with it: a machine word read as a signed one. -/
def limit (queue : SampleQueue) : Int :=
  if queue.depth.toNat < 0x8000000000000000 then queue.depth.toNat
  else queue.depth.toNat - 0x10000000000000000

def size (queue : SampleQueue) : Nat :=
  queue.count.toNat

/--
Drops the oldest samples while the counter is not below the limit and something waits.  Gives what was
dropped, what is left and the counter.
-/
def makeRoom (limit : Int) : List Nat → Int → List Nat × List Nat × Int
  | [], count => ([], [], count)
  | oldest :: rest, count =>
      if limit ≤ count then
        let (dropped, left, remaining) := makeRoom limit rest (count - 1)
        (oldest :: dropped, left, remaining)
      else ([], oldest :: rest, count)

def push (queue : SampleQueue) (sample : Nat) : List Nat × SampleQueue :=
  if queue.keepAll then
    ([], { queue with waiting := queue.waiting ++ [sample], count := queue.count + 1 })
  else
    let (dropped, left, count) := makeRoom queue.limit queue.waiting queue.count
    (dropped, { queue with waiting := left ++ [sample], count := count + 1 })

def pop (queue : SampleQueue) : Option (Nat × SampleQueue) :=
  match queue.waiting with
  | [] => none
  | oldest :: rest => some (oldest, { queue with waiting := rest, count := queue.count - 1 })

/-- Making room loses nothing: what was dropped and what is left are what waited, in order. -/
theorem makeRoom_append (limit : Int) (waiting : List Nat) (count : Int) :
    (makeRoom limit waiting count).1 ++ (makeRoom limit waiting count).2.1 = waiting := by
  induction waiting generalizing count with
  | nil => rfl
  | cons oldest rest ih =>
      unfold makeRoom
      by_cases full : limit ≤ count
      · rw [if_pos full]
        exact congrArg (oldest :: ·) (ih (count - 1))
      · rw [if_neg full]
        rfl

theorem makeRoom_count (limit : Int) (waiting : List Nat) (count : Int) :
    (makeRoom limit waiting count).2.2 - (makeRoom limit waiting count).2.1.length =
      count - waiting.length := by
  induction waiting generalizing count with
  | nil => rfl
  | cons oldest rest ih =>
      unfold makeRoom
      by_cases full : limit ≤ count
      · rw [if_pos full]
        refine (ih (count - 1)).trans ?_
        rw [List.length_cons]
        omega
      · rw [if_neg full]

end SampleQueue

namespace SampleStore

/-- Puts a sample into a queue: the samples dropped lose a share, the new one gains one. -/
def enqueue (store : SampleStore) (queue : SampleQueue) (sample : Nat) :
    SampleQueue × SampleStore :=
  let (dropped, changed) := queue.push sample
  (changed, (store.releaseAll dropped).retain sample)

end SampleStore

end PubSub
