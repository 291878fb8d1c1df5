import PubSub.Proofs.Delivery.BoundedList
import PubSub.Proofs.Delivery.Ends

/-!
When samples are dropped.  A queue drops a sample only if it has as many as its depth, as long as the depth is a signed
word; a depth beyond that reads as a negative limit, and every push drops all that waits.  A history, whose length is
compared with the depth as it was written, drops a sample only if it is full, whatever the depth.
-/

namespace PubSub

namespace SampleQueue

variable {queue : SampleQueue} {qos : Qos}

theorem countable_of_keepLast (last : qos.history = .keepLast) (positive : 0 < qos.depth.toNat)
    (small : qos.depth.toNat < 2 ^ 63) : qos.Countable := by
  refine ⟨?_, fun _ => ⟨positive, small⟩⟩
  rw [last]
  exact nofun

theorem bound?_of_keepLast (last : qos.history = .keepLast) : qos.bound? = some qos.depth.toNat :=
  if_pos last

theorem Fits.full_of_dropped (fits : queue.Fits qos) (countable : qos.Countable) {sample : Nat}
    (dropped : (queue.push sample).1 ≠ []) : qos.bound? = some queue.waiting.length := by
  by_contra room
  exact dropped ((fits.dropped countable sample).trans (if_neg room))

theorem Fits.gone_eq_taken (fits : queue.Fits qos) (countable : qos.Countable) {most : Nat}
    (bound : qos.bound? = some most) (calls : List Call)
    (room : queue.waiting.length + (calls.flatMap Call.pushed).length ≤ most) :
    (answers SampleQueue.step queue calls).flatMap Answer.gone =
      (answers SampleQueue.step queue calls).flatMap Answer.taken := by
  induction calls generalizing queue with
  | nil => rfl
  | cons call rest ih =>
      have later := (fits.step countable call).1
      have account := congrArg List.length (queue.gone_append call)
      simp only [List.length_append, List.flatMap_cons] at account room
      rw [answers, List.flatMap_cons, List.flatMap_cons, ih later (by omega)]
      congr 1
      cases call with
      | push sample =>
          by_contra dropped
          have full := fits.full_of_dropped countable dropped
          rw [bound, Option.some.injEq] at full
          simp only [Call.pushed, List.length_singleton] at room
          omega
      | pop =>
          unfold SampleQueue.step
          cases queue.pop <;> rfl
      | size => rfl

/-- A queue of a keep-last profile whose counter tells how many samples wait, however deep it is. -/
structure Counts (queue : SampleQueue) (qos : Qos) : Prop where
  keepLast : queue.keepAll = false
  depth : queue.depth = qos.depth
  counted : queue.count = queue.waiting.length

theorem counts_ofQos (last : qos.history = .keepLast) : (ofQos qos).Counts qos := by
  refine ⟨?_, rfl, rfl⟩
  unfold ofQos
  rw [last]
  rfl

theorem Counts.step (counts : queue.Counts qos) (call : Call) : (queue.step call).2.Counts qos := by
  have counted := counts.counted
  cases call with
  | push sample =>
      have moved := makeRoom_count queue.limit queue.waiting queue.count
      have bounded : ¬ queue.keepAll = true := by
        rw [counts.keepLast]
        exact Bool.false_ne_true
      unfold SampleQueue.step push
      dsimp only
      rw [if_neg bounded]
      generalize makeRoom queue.limit queue.waiting queue.count = made at moved ⊢
      obtain ⟨dropped, left, count⟩ := made
      refine ⟨counts.keepLast, counts.depth, ?_⟩
      simp only [List.length_append, List.length_singleton] at moved ⊢
      omega
  | pop =>
      unfold SampleQueue.step pop
      cases waiting : queue.waiting with
      | nil => exact counts
      | cons oldest rest =>
          refine ⟨counts.keepLast, counts.depth, ?_⟩
          rw [waiting, List.length_cons] at counted
          dsimp only
          omega
  | size => exact counts

theorem Counts.run (counts : queue.Counts qos) (calls : List Call) :
    (after SampleQueue.step queue calls).Counts qos := by
  induction calls generalizing queue with
  | nil => exact counts
  | cons call rest ih => exact ih (counts.step call)

/-- A counter is never below a limit that is not positive, so that room is made for as long as anything waits. -/
theorem makeRoom_of_nonpos {limit : Int} (nonpos : limit ≤ 0) (waiting : List Nat) :
    (makeRoom limit waiting waiting.length).1 = waiting := by
  induction waiting with
  | nil => rfl
  | cons oldest rest ih =>
      have reached : limit ≤ ((oldest :: rest).length : Int) := by omega
      have less : ((oldest :: rest).length : Int) - 1 = rest.length := by
        rw [List.length_cons]
        omega
      unfold makeRoom
      rw [if_pos reached, less]
      exact congrArg (oldest :: ·) ih

theorem waiting_push_of_empty (empty : queue.waiting = []) (sample : Nat) :
    (queue.push sample).2.waiting = [sample] := by
  obtain ⟨left, split, waiting⟩ := queue.push_cases sample
  rw [empty, List.append_eq_nil_iff] at split
  rw [waiting, split.2, List.nil_append]

theorem Counts.limit_neg (counts : queue.Counts qos) (large : 2 ^ 63 ≤ qos.depth.toNat) : queue.limit < 0 := by
  have word := qos.depth.toNat_lt
  have beyond : ¬ qos.depth.toNat < 0x8000000000000000 := by omega
  unfold SampleQueue.limit
  rw [counts.depth, if_neg beyond]
  omega

theorem Counts.dropped (counts : queue.Counts qos) (large : 2 ^ 63 ≤ qos.depth.toNat) (sample : Nat) :
    (queue.push sample).1 = queue.waiting := by
  have all := makeRoom_of_nonpos (Int.le_of_lt (counts.limit_neg large)) queue.waiting
  unfold push
  simp only [counts.keepLast, Bool.false_eq_true, ↓reduceIte, counts.counted]
  exact all

end SampleQueue

namespace Transport

variable {transport : Transport} {publisher : Nat} {state : PublisherEnd}

def rememberAll (transport : Transport) (publisher : Nat) (samples : List Nat) : Transport :=
  samples.foldl (fun current sample => current.remember publisher sample) transport

def retained (transport : Transport) (publisher : Nat) : List Nat :=
  (transport.publishers.get? publisher).elim [] PublisherEnd.history

/-- However many samples a transient-local publisher remembers, it retains the newest. -/
theorem get?_rememberAll (found : transport.publishers.get? publisher = some state)
    (keeps : state.qos.isTransientLocal = true) (bounded : excess state.qos state.history.length = 0)
    (samples : List Nat) :
    (transport.rememberAll publisher samples).publishers.get? publisher =
      some { state with history := state.qos.newest (state.history ++ samples) } := by
  induction samples generalizing transport state with
  | nil =>
      rw [List.append_nil, Qos.newest_of_excess bounded]
      exact found
  | cons sample rest ih =>
      have remembered : (transport.remember publisher sample).publishers.get? publisher =
          some { state with history := state.qos.newest (state.history ++ [sample]) } := by
        rw [publishers_remember, if_pos rfl, found, Option.map_some, remembering, if_pos keeps]
      refine (ih remembered keeps (state.qos.excess_newest _)).trans ?_
      dsimp only
      rw [Qos.newest_append, List.append_assoc, List.singleton_append]

structure Fresh (transport : Transport) (publisher : Nat) (qos : Qos) : Prop where
  keeps : qos.isTransientLocal = true
  there : ∃ state, transport.publishers.get? publisher = some state ∧ state.qos = qos ∧ state.history = []

theorem Fresh.retained_rememberAll {qos : Qos} (fresh : transport.Fresh publisher qos) (samples : List Nat) :
    (transport.rememberAll publisher samples).retained publisher = lastOf qos.bound? samples := by
  obtain ⟨state, found, rfl, empty⟩ := fresh.there
  have bounded : excess state.qos state.history.length = 0 := by
    unfold excess
    rw [empty, List.length_nil, Nat.zero_sub, ite_self]
  unfold retained
  rw [get?_rememberAll found fresh.keeps bounded, empty]
  exact SampleQueue.newest_eq_lastOf state.qos samples

end Transport

namespace SampleQueue

variable {qos : Qos}

structure MakesRoom (qos : Qos) : Prop where
  /-- Pushes drop nothing unless the queue is full, exactly where the depth is a signed word. -/
  whenFull : (∀ calls sample, ((after step (ofQos qos) calls).push sample).1 ≠ [] →
      (after step (ofQos qos) calls).waiting.length = qos.depth.toNat) ↔ qos.depth.toNat < 2 ^ 63
  /-- Then nothing is lost of as many samples as there is room for. -/
  lossless : qos.depth.toNat < 2 ^ 63 → ∀ calls, (calls.flatMap Call.pushed).length ≤ qos.depth.toNat →
    (answers step (ofQos qos) calls).flatMap Answer.taken ++ (after step (ofQos qos) calls).waiting =
      calls.flatMap Call.pushed
  /-- Under any other depth a push drops whatever waits. -/
  emptied : 2 ^ 63 ≤ qos.depth.toNat → ∀ calls sample,
    ((after step (ofQos qos) calls).push sample).1 = (after step (ofQos qos) calls).waiting
  /-- A history loses nothing unless it is full, whatever the depth. -/
  historyWhenFull : ∀ (transport : Transport) publisher, transport.Fresh publisher qos → ∀ samples sample,
    (transport.rememberAll publisher (samples ++ [sample])).retained publisher ≠
        (transport.rememberAll publisher samples).retained publisher ++ [sample] →
      ((transport.rememberAll publisher samples).retained publisher).length = qos.depth.toNat
  historyLossless : ∀ (transport : Transport) publisher, transport.Fresh publisher qos → ∀ samples : List Nat,
    samples.length ≤ qos.depth.toNat → (transport.rememberAll publisher samples).retained publisher = samples

/-- The newest of a list that gets longer are those of before and the new one, unless there were as many already. -/
theorem rtake_append_singleton {samples : List Nat} {sample most : Nat}
    (lost : (samples ++ [sample]).rtake most ≠ samples.rtake most ++ [sample]) :
    (samples.rtake most).length = most := by
  unfold List.rtake at lost ⊢
  rw [List.length_append, List.length_singleton] at lost
  rw [List.length_drop]
  by_contra room
  apply lost
  rw [show samples.length + 1 - most = samples.length - most by omega, List.drop_append_of_le_length (by omega)]

theorem rtake_of_length_le {samples : List Nat} {most : Nat} (short : samples.length ≤ most) :
    samples.rtake most = samples := by
  unfold List.rtake
  rw [Nat.sub_eq_zero_of_le short, List.drop_zero]

theorem makesRoom_of_keepLast (last : qos.history = .keepLast) (positive : 0 < qos.depth.toNat) :
    MakesRoom qos := by
  have bound := bound?_of_keepLast last
  have counts := (counts_ofQos last).run
  have empties : 2 ^ 63 ≤ qos.depth.toNat → ∀ calls sample,
      ((after step (ofQos qos) calls).push sample).1 = (after step (ofQos qos) calls).waiting :=
    fun large calls sample => (counts calls).dropped large sample
  constructor
  · constructor
    · intro whenFull
      by_contra beyond
      have large : 2 ^ 63 ≤ qos.depth.toNat := Nat.not_lt.1 beyond
      -- The first sample waits alone, and the second drops it.
      have waiting : (after step (ofQos qos) [.push 0]).waiting = [0] :=
        waiting_push_of_empty (rfl : (ofQos qos).waiting = []) 0
      have dropped := empties large [.push 0] 1
      have full := whenFull [.push 0] 1 (by rw [dropped, waiting]; exact List.cons_ne_nil 0 [])
      rw [waiting, List.length_singleton] at full
      omega
    · intro small calls sample dropped
      have countable := countable_of_keepLast last positive small
      have full := ((fits_ofQos qos).run countable calls).1.full_of_dropped countable dropped
      rw [bound, Option.some.injEq] at full
      exact full.symm
  · intro small calls room
    have countable := countable_of_keepLast last positive small
    have fits := fits_ofQos qos
    rw [← fits.gone_eq_taken countable bound calls ((Nat.zero_add _).trans_le room)]
    exact gone_run (ofQos qos) calls
  · exact empties
  · intro transport publisher fresh samples sample lost
    simp only [fresh.retained_rememberAll, bound, lastOf] at lost ⊢
    exact rtake_append_singleton lost
  · intro transport publisher fresh samples short
    rw [fresh.retained_rememberAll, bound]
    exact rtake_of_length_le short

/-- The deepest queue there is holds one sample, and loses it to the next. -/
theorem makesRoom_of_keepLast_deepest :
    Qos.standard.history = .keepLast ∧ 0 < (18446744073709551615 : UInt64).toNat ∧
      ((after step (ofQos { Qos.standard with depth := 18446744073709551615 }) [.push 1]).push 2).1 = [1] := by
  have positive : 0 < (18446744073709551615 : UInt64).toNat := by decide
  have makesRoom : MakesRoom { Qos.standard with depth := 18446744073709551615 } :=
    makesRoom_of_keepLast rfl positive
  exact ⟨rfl, positive, makesRoom.emptied (by decide) [.push 1] 2⟩

/-- A push drops a sample where room is left for all but one. -/
theorem drops_before_full :
    let deepest : Qos := { Qos.standard with depth := 18446744073709551615 }
    let queue := after step (ofQos deepest) [.push 1]
    deepest.history = .keepLast ∧ (queue.push 2).1 = [1] ∧ queue.waiting.length < deepest.depth.toNat := by
  decide

end SampleQueue

end PubSub
