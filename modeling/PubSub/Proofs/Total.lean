import Mathlib.Algebra.Order.BigOperators.Group.List
import Mathlib.Algebra.Order.Group.Nat
import Mathlib.Algebra.Ring.Nat
import PubSub.Table

/-!
Sums over tables.  Holders of something are the values of a table, and the weight of a value says how often
it holds the thing that is counted.  Each operation is described by how it moves such a sum.
-/

namespace PubSub

namespace Table

variable {Key Value : Type}

def total (table : Table Key Value) (weight : Value → Nat) : Nat :=
  (table.values.map weight).sum

theorem total_ite (table : Table Key Value) (asked : Value → Prop) [DecidablePred asked] :
    table.total (fun value => if asked value then 1 else 0) =
      (table.entries.filter (fun entry => asked entry.2)).length := by
  unfold total values
  induction table.entries with
  | nil => rfl
  | cons entry rest ih =>
      rw [List.map_cons, List.map_cons, List.sum_cons, ih, List.filter_cons]
      by_cases holds : asked entry.2
      · rw [if_pos holds, if_pos (decide_eq_true holds), List.length_cons, Nat.add_comm]
      · rw [if_neg holds, if_neg (by simpa using holds), Nat.zero_add]

variable [DecidableEq Key]

private theorem sum_put (weight : Value → Nat) (key : Key) (value : Value)
    (entries : List (Key × Value)) :
    (((put key value entries).map Prod.snd).map weight).sum + (find key entries).elim 0 weight =
      ((entries.map Prod.snd).map weight).sum + weight value := by
  induction entries with
  | nil => simp [put, find]
  | cons entry rest ih =>
      obtain ⟨head, previous⟩ := entry
      by_cases same : key = head
      · simp only [put, find, if_pos same, List.map_cons, List.sum_cons, Option.elim_some]
        omega
      · simp only [put, find, if_neg same, List.map_cons, List.sum_cons]
        omega

private theorem remove_of_absent (key : Key) (entries : List (Key × Value))
    (absent : key ∉ entries.map Prod.fst) : remove key entries = entries := by
  induction entries with
  | nil => rfl
  | cons entry rest ih =>
      simp only [List.map_cons, List.mem_cons, not_or] at absent
      rw [remove, if_neg absent.1, ih absent.2]

private theorem sum_remove (weight : Value → Nat) (key : Key) (entries : List (Key × Value))
    (distinct : (entries.map Prod.fst).Nodup) :
    (((remove key entries).map Prod.snd).map weight).sum + (find key entries).elim 0 weight =
      ((entries.map Prod.snd).map weight).sum := by
  induction entries with
  | nil => simp [remove, find]
  | cons entry rest ih =>
      obtain ⟨head, previous⟩ := entry
      simp only [List.map_cons, List.nodup_cons] at distinct
      by_cases same : key = head
      · subst head
        rw [remove, if_pos rfl, find, if_pos rfl, remove_of_absent key rest distinct.1]
        simp only [List.map_cons, List.sum_cons, Option.elim_some]
        omega
      · have later := ih distinct.2
        simp only [remove, find, if_neg same, List.map_cons, List.sum_cons]
        omega

theorem total_set (table : Table Key Value) (key : Key) (value : Value) (weight : Value → Nat) :
    (table.set key value).total weight + (table.get? key).elim 0 weight =
      table.total weight + weight value :=
  sum_put weight key value table.entries

theorem total_set_free (table : Table Key Value) {key : Key} (free : table.get? key = none)
    (value : Value) (weight : Value → Nat) :
    (table.set key value).total weight = table.total weight + weight value := by
  have moved := table.total_set key value weight
  rwa [free, Option.elim_none, Nat.add_zero] at moved

theorem total_erase (table : Table Key Value) (key : Key) (weight : Value → Nat) :
    (table.erase key).total weight + (table.get? key).elim 0 weight = table.total weight :=
  sum_remove weight key table.entries table.distinct

theorem total_modify (table : Table Key Value) (key : Key) (change : Value → Value)
    (weight : Value → Nat) :
    (table.modify key change).total weight + (table.get? key).elim 0 weight =
      table.total weight + (table.get? key).elim 0 (fun value => weight (change value)) := by
  unfold modify
  cases found : table.get? key with
  | none => rfl
  | some value =>
      have moved := table.total_set key (change value) weight
      rw [found] at moved
      exact moved

theorem total_modify_same (table : Table Key Value) (key : Key) (change : Value → Value)
    (weight : Value → Nat)
    (same : ∀ value, table.get? key = some value → weight (change value) = weight value) :
    (table.modify key change).total weight = table.total weight := by
  have moved := table.total_modify key change weight
  cases found : table.get? key with
  | none =>
      rw [found] at moved
      exact moved
  | some value =>
      rw [found, Option.elim_some, Option.elim_some, same value found] at moved
      omega

theorem le_total (table : Table Key Value) {key : Key} {value : Value}
    (found : table.get? key = some value) (weight : Value → Nat) : weight value ≤ table.total weight := by
  have member := (table.get?_eq_some_iff key value).1 found
  unfold total values
  exact List.le_sum_of_mem (List.mem_map_of_mem (List.mem_map_of_mem (f := Prod.snd) member))

theorem exists_of_total_pos (table : Table Key Value) (weight : Value → Nat)
    (positive : 0 < table.total weight) :
    ∃ key value, table.get? key = some value ∧ 0 < weight value := by
  obtain ⟨_, term, heavy⟩ := List.sum_pos_iff_exists_pos_nat.mp positive
  obtain ⟨value, member, rfl⟩ := List.mem_map.mp term
  obtain ⟨⟨key, _⟩, present, rfl⟩ := List.mem_map.mp member
  exact ⟨key, _, (table.get?_eq_some_iff _ _).2 present, heavy⟩

theorem total_eq_zero (table : Table Key Value) (weight : Value → Nat)
    (absent : ∀ key, table.get? key = none) : table.total weight = 0 := by
  by_contra heavy
  obtain ⟨key, value, found, _⟩ := table.exists_of_total_pos weight (Nat.pos_of_ne_zero heavy)
  rw [absent] at found
  cases found

end Table

namespace Arena

variable {Value : Type}

def total (arena : Arena Value) (weight : Value → Nat) : Nat :=
  arena.cells.total weight

theorem total_insert (arena : Arena Value) (value : Value) (weight : Value → Nat) :
    (arena.insert value).2.total weight = arena.total weight + weight value :=
  arena.cells.total_set_free arena.get?_next value weight

theorem total_modify (arena : Arena Value) (index : Nat) (change : Value → Value)
    (weight : Value → Nat) :
    (arena.modify index change).total weight + (arena.get? index).elim 0 weight =
      arena.total weight + (arena.get? index).elim 0 (fun value => weight (change value)) :=
  arena.cells.total_modify index change weight

theorem total_modify_same (arena : Arena Value) (index : Nat) (change : Value → Value)
    (weight : Value → Nat)
    (same : ∀ value, arena.get? index = some value → weight (change value) = weight value) :
    (arena.modify index change).total weight = arena.total weight :=
  arena.cells.total_modify_same index change weight same

theorem total_erase (arena : Arena Value) (index : Nat) (weight : Value → Nat) :
    (arena.erase index).total weight + (arena.get? index).elim 0 weight = arena.total weight :=
  arena.cells.total_erase index weight

theorem le_total (arena : Arena Value) {index : Nat} {value : Value}
    (found : arena.get? index = some value) (weight : Value → Nat) : weight value ≤ arena.total weight :=
  arena.cells.le_total found weight

theorem exists_of_total_pos (arena : Arena Value) (weight : Value → Nat)
    (positive : 0 < arena.total weight) :
    ∃ index value, arena.get? index = some value ∧ 0 < weight value :=
  arena.cells.exists_of_total_pos weight positive

theorem total_eq_zero (arena : Arena Value) (weight : Value → Nat)
    (absent : ∀ index, arena.get? index = none) : arena.total weight = 0 :=
  arena.cells.total_eq_zero weight absent

end Arena

end PubSub
