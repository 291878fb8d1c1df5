import Mathlib.Data.List.Nodup
import PubSub.Middleware.Subscription
import PubSub.Proofs.Delivery.Alike
import PubSub.Proofs.Endpoints

/-!
Registration.  The endpoints that are still there are, topic by topic and in order, those that were
registered under the key of the topic; those that are gone may stay on the list of a topic for a while.
-/

namespace PubSub

/--
The live part of what is listed for each key are the ends of that key, in their order.  No number is listed
that was not given out, and no two ends have the same.
-/
structure Registered (ends : List (Bytes × Nat)) (listed : Bytes → List Nat) (contains : Nat → Bool)
    (next : Nat) : Prop where
  live : ∀ key, (listed key).filter contains =
    (ends.filter (fun entry => decide (entry.1 = key))).map Prod.snd
  distinct : (ends.map Prod.snd).Nodup
  below : ∀ key, ∀ index ∈ listed key, index < next

namespace Registered

variable {ends : List (Bytes × Nat)} {listed relisted : Bytes → List Nat} {contains : Nat → Bool}
  {next : Nat}

theorem mem_iff (registered : Registered ends listed contains next) (key : Bytes) (index : Nat) :
    (key, index) ∈ ends ↔ index ∈ listed key ∧ contains index = true := by
  rw [← List.mem_filter, registered.live, List.mem_map]
  constructor
  · intro member
    exact ⟨(key, index), List.mem_filter.2 ⟨member, decide_eq_true rfl⟩, rfl⟩
  · rintro ⟨⟨other, _⟩, member, rfl⟩
    obtain ⟨there, same⟩ := List.mem_filter.1 member
    rw [← of_decide_eq_true same]
    exact there

theorem lt_next (registered : Registered ends listed contains next) {entry : Bytes × Nat}
    (member : entry ∈ ends) : entry.2 < next :=
  registered.below entry.1 entry.2 ((registered.mem_iff entry.1 entry.2).1 member).1

theorem eq_of_snd_eq (registered : Registered ends listed contains next) {first second : Bytes × Nat}
    (here : first ∈ ends) (there : second ∈ ends) (same : first.2 = second.2) : first = second :=
  List.inj_on_of_nodup_map registered.distinct here there same

theorem relist (registered : Registered ends listed contains next)
    (live : ∀ key, (relisted key).filter contains = (listed key).filter contains)
    (below : ∀ key, ∀ index ∈ relisted key, index ∈ listed key) :
    Registered ends relisted contains next :=
  ⟨fun key => (live key).trans (registered.live key), registered.distinct,
    fun key index member => registered.below key index (below key index member)⟩

theorem add (registered : Registered ends listed contains next) {after : Nat → Bool} (key : Bytes)
    (there : ∀ index, after index = (decide (index = next) || contains index))
    (here : relisted key = (listed key).filter contains ++ [next])
    (others : ∀ other, other ≠ key → relisted other = listed other) :
    Registered (ends ++ [(key, next)]) relisted after (next + 1) := by
  -- The new number is on no list yet, so that those filters give what they gave.
  have old : ∀ indices : List Nat, (∀ index ∈ indices, index < next) →
      indices.filter after = indices.filter contains := by
    intro indices below
    apply List.filter_congr
    intro index member
    rw [there, decide_eq_false (Nat.ne_of_lt (below index member)), Bool.false_or]
  constructor
  · intro other
    rw [List.filter_append, List.map_append]
    by_cases same : other = key
    · subst other
      have listedBelow : ∀ index ∈ (listed key).filter contains, index < next :=
        fun index member => registered.below key index (List.mem_filter.1 member).1
      have new : [next].filter after = [next] :=
        List.filter_cons_of_pos (by rw [there, decide_eq_true rfl, Bool.true_or])
      rw [here, List.filter_append, old _ listedBelow, List.filter_filter, new, ← registered.live]
      simp
    · rw [others other same, old _ (registered.below other), registered.live]
      simp [Ne.symm same]
  · rw [List.map_append, List.nodup_append]
    refine ⟨registered.distinct, List.nodup_singleton _, ?_⟩
    rintro index member _ last rfl
    obtain ⟨entry, listedEntry, rfl⟩ := List.mem_map.mp member
    have below := registered.lt_next listedEntry
    rw [List.map_singleton, List.mem_singleton] at last
    omega
  · intro other index member
    by_cases same : other = key
    · subst other
      rw [here, List.mem_append, List.mem_filter, List.mem_singleton] at member
      rcases member with ⟨before, _⟩ | new
      · exact Nat.lt_succ_of_lt (registered.below key index before)
      · omega
    · rw [others other same] at member
      exact Nat.lt_succ_of_lt (registered.below other index member)

theorem drop (registered : Registered ends listed contains next) {after : Nat → Bool} (gone : Nat)
    (there : ∀ index, after index = (decide (index ≠ gone) && contains index)) :
    Registered (ends.filter (fun entry => decide (entry.2 ≠ gone))) listed after next := by
  refine ⟨fun key => ?_, ?_, registered.below⟩
  · have split : (listed key).filter after =
        ((listed key).filter contains).filter (fun index => decide (index ≠ gone)) := by
      rw [List.filter_filter]
      exact List.filter_congr (fun index _ => there index)
    rw [split, registered.live, List.filter_map, List.filter_filter, List.filter_filter]
    congr 1
    apply List.filter_congr
    intro entry _
    exact Bool.and_comm _ _
  · exact registered.distinct.sublist (List.filter_sublist.map Prod.snd)

end Registered

def Table.ends {State : Type} (table : Table String State) (place : State → Bytes × Nat) :
    List (Bytes × Nat) :=
  table.entries.map (fun entry => place entry.2)

def PublisherState.place (state : PublisherState) : Bytes × Nat :=
  (state.key, state.endpoint)

def SubscriptionState.place (state : SubscriptionState) : Bytes × Nat :=
  (state.key, state.endpoint)

namespace Registered

variable {State : Type} {table : Table String State} {place : State → Bytes × Nat}
  {listed relisted : Bytes → List Nat} {contains after : Nat → Bool} {next : Nat} {name : String}
  {state : State}

theorem mem_ends (found : table.get? name = some state) : place state ∈ table.ends place :=
  List.mem_map_of_mem (f := fun entry => place entry.2) ((table.get?_eq_some_iff name state).1 found)

theorem name_eq (registered : Registered (table.ends place) listed contains next)
    (found : table.get? name = some state) {other : String} {held : State}
    (there : table.get? other = some held) (same : (place held).2 = (place state).2) :
    other = name := by
  have distinct := registered.distinct
  unfold Table.ends at distinct
  rw [List.map_map] at distinct
  have here := (table.get?_eq_some_iff name state).1 found
  have also := (table.get?_eq_some_iff other held).1 there
  exact congrArg Prod.fst (List.inj_on_of_nodup_map distinct also here same)

theorem set (registered : Registered (table.ends place) listed contains next)
    (free : table.get? name = none) (new : (place state).2 = next)
    (there : ∀ index, after index = (decide (index = next) || contains index))
    (here : relisted (place state).1 = (listed (place state).1).filter contains ++ [next])
    (others : ∀ other, other ≠ (place state).1 → relisted other = listed other) :
    Registered ((table.set name state).ends place) relisted after (next + 1) := by
  have added := registered.add (place state).1 there here others
  unfold Table.ends at added ⊢
  rw [table.entries_set_of_free free, List.map_append, List.map_singleton]
  rw [← new] at added ⊢
  exact added

theorem erase (registered : Registered (table.ends place) listed contains next)
    (found : table.get? name = some state)
    (there : ∀ index, after index = (decide (index ≠ (place state).2) && contains index)) :
    Registered ((table.erase name).ends place) listed after next := by
  have dropped := registered.drop (place state).2 there
  have same : (table.erase name).ends place =
      (table.ends place).filter (fun entry => decide (entry.2 ≠ (place state).2)) := by
    unfold Table.ends
    rw [table.entries_erase, List.filter_map]
    congr 1
    apply List.filter_congr
    intro entry member
    have held := (table.get?_eq_some_iff entry.1 entry.2).2 member
    apply decide_eq_decide.2
    apply not_congr
    constructor
    · rintro rfl
      rw [found, Option.some.injEq] at held
      exact congrArg (fun value => (place value).2) held.symm
    · exact fun equal => (registered.name_eq found held equal).symm
  rw [same]
  exact dropped

end Registered

end PubSub
