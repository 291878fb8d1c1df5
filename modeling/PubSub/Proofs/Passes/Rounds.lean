import PubSub.Proofs.Passes.Within

/-!
Passes one after the other.  While nothing is raised each pass takes the row of messages that is in front by then, and
these are the rows of the queues as they were at first, one after the other; so a queue is told from its front to its
end.
-/

namespace PubSub

def toldTo (index : Nat) (messages : List (Nat × Payload)) : List Payload :=
  (messages.filter (fun entry => entry.1 == index)).map Prod.snd

theorem toldTo_append (index : Nat) (first second : List (Nat × Payload)) :
    toldTo index (first ++ second) = toldTo index first ++ toldTo index second := by
  unfold toldTo
  rw [List.filter_append, List.map_append]

namespace Session

variable {session : Session} {index : Nat} {indices : List Nat}

theorem mem_row_iff (place : Nat) :
    index ∈ (session.row indices place).map Prod.fst ↔ index ∈ indices ∧ place < (session.pending index).length := by
  unfold row
  rw [List.map_filterMap, List.mem_filterMap]
  constructor
  · rintro ⟨other, member, found⟩
    rw [Option.map_map, Option.map_eq_some_iff] at found
    obtain ⟨message, there, rfl⟩ := found
    exact ⟨member, (List.getElem?_eq_some_iff.1 there).1⟩
  · rintro ⟨member, early⟩
    refine ⟨index, member, ?_⟩
    rw [List.getElem?_eq_getElem early]
    rfl

theorem length_row (session : Session) (indices : List Nat) (place : Nat) :
    (session.row indices place).length = indices.countP (fun index => place < (session.pending index).length) := by
  unfold row
  rw [List.length_filterMap_eq_countP]
  refine List.countP_congr (fun index _ => ?_)
  rw [Option.isSome_map, decide_eq_true_iff, Option.isSome_iff_ne_none, Ne, List.getElem?_eq_none_iff, Nat.not_le]

theorem toldTo_row_of_not_mem (absent : index ∉ indices) (place : Nat) :
    toldTo index (session.row indices place) = [] := by
  unfold toldTo
  rw [List.map_eq_nil_iff, List.filter_eq_nil_iff]
  intro entry member same
  apply absent
  rw [← beq_iff_eq.1 same]
  exact (session.fst_row_sublist indices place).subset (List.mem_map_of_mem member)

theorem toldTo_row_self (session : Session) (index place : Nat) :
    toldTo index (session.row [index] place) = (session.pending index)[place]?.toList := by
  unfold toldTo
  rw [row_singleton]
  cases (session.pending index)[place]? <;> simp

theorem toldTo_row (distinct : indices.Nodup) (member : index ∈ indices) (place : Nat) :
    toldTo index (session.row indices place) = (session.pending index)[place]?.toList := by
  induction indices with
  | nil => cases member
  | cons first rest ih =>
      obtain ⟨absent, later⟩ := List.nodup_cons.1 distinct
      rw [← List.singleton_append, row_append, toldTo_append]
      rcases List.mem_cons.1 member with rfl | among
      · rw [toldTo_row_self, toldTo_row_of_not_mem absent, List.append_nil]
      · have other : index ∉ [first] := by
          rw [List.mem_singleton]
          rintro rfl
          exact absent among
        rw [toldTo_row_of_not_mem other, ih later among, List.nil_append]

/-- The messages of some rounds, row by row. -/
def rows (session : Session) (indices : List Nat) (count : Nat) : List (Nat × Payload) :=
  (List.range count).flatMap (session.row indices)

theorem rows_succ (session : Session) (indices : List Nat) (count : Nat) :
    session.rows indices (count + 1) = session.rows indices count ++ session.row indices count := by
  unfold rows
  rw [List.range_succ, List.flatMap_append, List.flatMap_singleton]

/-- Row by row a subscription is told what waits for it, in its order. -/
theorem toldTo_rows (distinct : indices.Nodup) (member : index ∈ indices) (count : Nat) :
    toldTo index (session.rows indices count) = (session.pending index).take count := by
  induction count with
  | zero => rfl
  | succ count ih => rw [rows_succ, toldTo_append, ih, toldTo_row distinct member, List.take_add_one]

end Session

theorem raised_of_append {listener : Listener} {memory : Memory} {first second : List (Nat × Payload)}
    (silent : (hear listener (first ++ second) memory).raised = none) :
    (hear listener first memory).raised = none := by
  cases outcome : (hear listener first memory).raised with
  | none => rfl
  | some raised =>
      rw [hear_append_of_some outcome, outcome] at silent
      cases silent

namespace Run

variable {session : Session} {callback : Callback} {listener : Listener} {name : String}

theorem run_spinOnce (callback : Callback) (name : String) (session : Session) :
    (spinOnce callback name).run session =
      (((pass callback name).run session).1.map Answer.dispatched, ((pass callback name).run session).2) := by
  unfold spinOnce
  rw [map_eq_pure_bind, run_bind]
  generalize (pass callback name).run session = ended
  obtain ⟨stop | number, after⟩ := ended <;> rfl

def afterSpins (callback : Callback) (name : String) (session : Session) (count : Nat) : Session :=
  (fun current => ((spinOnce callback name).run current).2)^[count] session

theorem afterSpins_succ (callback : Callback) (name : String) (session : Session) (count : Nat) :
    afterSpins callback name session (count + 1) =
      ((pass callback name).run (afterSpins callback name session count)).2 := by
  unfold afterSpins
  rw [Function.iterate_succ_apply', run_spinOnce]

theorem Ready.follows {after : Session} (ready : Ready callback listener name session)
    (follows : session.Follows after) (owners : session.SameOwners after) :
    Ready callback listener name after := by
  obtain ⟨⟨executor, found⟩, fit, owned, attended, distinct⟩ := ready
  have visited := follows.visited name
  constructor
  · have targets := follows.targets name
    unfold Session.targets at targets
    rw [found, Option.map_some, Option.map_eq_some_iff] at targets
    obtain ⟨same, there, _⟩ := targets
    exact ⟨same, there⟩
  · exact follows.fit fit
  · exact owned.sameOwners owners
  · rw [visited]
    exact fun index member => follows.attended fit (attended index member)
  · rw [visited]
    exact distinct

/-- What is heard in so many rounds, unless something is raised. -/
def heardIn (listener : Listener) (name : String) (session : Session) (count : Nat) : Heard :=
  hear listener (session.rows (session.visited name) count) session.memory

structure Rounds (listener : Listener) (name : String) (count : Nat) (session here : Session) : Prop where
  follows : session.Follows here
  owners : session.SameOwners here
  memory : here.memory = (heardIn listener name session count).memory
  pending : ∀ index, here.pending index =
    if index ∈ session.visited name then (session.pending index).drop count else session.pending index

theorem Rounds.row {count : Nat} {here : Session} (rounds : Rounds listener name count session here) :
    here.row (here.visited name) 0 = session.row (session.visited name) count := by
  rw [rounds.follows.visited]
  refine List.filterMap_congr (fun index member => ?_)
  rw [rounds.pending, if_pos member, List.getElem?_drop, Nat.add_zero]

/-- After so many rounds the next pass tells the row that is next. -/
theorem Rounds.delivers {count : Nat} {here : Session} (ready : Ready callback listener name session)
    (rounds : Rounds listener name count session here) :
    Delivers listener here (here.visited name) (pass callback name) :=
  (ready.follows rounds.follows rounds.owners).pass

theorem silent_before {count : Nat} (silent : (heardIn listener name session (count + 1)).raised = none) :
    (heardIn listener name session count).raised = none := by
  unfold heardIn at silent ⊢
  rw [Session.rows_succ] at silent
  exact raised_of_append silent

theorem heardIn_succ {count : Nat} (silent : (heardIn listener name session count).raised = none) :
    let late := hear listener (session.row (session.visited name) count) (heardIn listener name session count).memory
    (heardIn listener name session (count + 1)).raised = late.raised ∧
      (heardIn listener name session (count + 1)).memory = late.memory := by
  unfold heardIn at silent ⊢
  rw [Session.rows_succ, hear_append_of_none silent]
  exact ⟨rfl, rfl⟩

theorem Rounds.zero (listener : Listener) (name : String) (session : Session) :
    Rounds listener name 0 session session :=
  ⟨.refl session, ⟨fun _ => rfl, fun _ => rfl⟩, rfl, fun index => by rw [List.drop_zero, ite_self]⟩

theorem Rounds.succ {count : Nat} {here : Session} (ready : Ready callback listener name session)
    (rounds : Rounds listener name count session here)
    (silent : (heardIn listener name session (count + 1)).raised = none) :
    Rounds listener name (count + 1) session ((pass callback name).run here).2 := by
  obtain ⟨_, memory, follows, owners, taken⟩ := rounds.delivers ready
  obtain ⟨raised, remembered⟩ := heardIn_succ (silent_before silent)
  rw [silent] at raised
  rw [rounds.row, rounds.memory] at memory taken
  rw [messages_of_none raised.symm] at taken
  refine ⟨rounds.follows.trans follows, rounds.owners.trans owners, memory.trans remembered.symm, fun index => ?_⟩
  rw [taken index, rounds.pending index]
  by_cases member : index ∈ session.visited name
  · rw [if_pos member, if_pos member, List.tail_drop]
    by_cases more : count < (session.pending index).length
    · rw [if_pos ((Session.mem_row_iff count).2 ⟨member, more⟩)]
    · rw [if_neg (fun told => more ((Session.mem_row_iff count).1 told).2), List.drop_of_length_le (by omega),
        List.drop_of_length_le (by omega)]
  · rw [if_neg member, if_neg member, if_neg (fun told => member ((Session.mem_row_iff count).1 told).1)]

theorem Ready.rounds (ready : Ready callback listener name session) {count : Nat}
    (silent : (heardIn listener name session count).raised = none) :
    Rounds listener name count session (afterSpins callback name session count) := by
  induction count with
  | zero => exact .zero listener name session
  | succ count ih =>
      rw [afterSpins_succ]
      exact (ih (silent_before silent)).succ ready silent

end Run

end PubSub
