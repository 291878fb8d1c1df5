import Mathlib.Data.List.Count
import PubSub.Table

/-!
Arenas of things that are owned together.  Each thing counts its owners; who they are is told by a count of
holders, and the thing goes with the last of them.
-/

namespace PubSub

theorem count_cons_eq (head other : Nat) (rest : List Nat) :
    (head :: rest).count other = [head].count other + rest.count other := by
  rw [← List.singleton_append, List.count_append]

namespace Arena

variable {Value : Type} {arena : Arena Value} {owners : Value → Nat} {holders before : Nat → Nat}

def ownersOf (arena : Arena Value) (owners : Value → Nat) (index : Nat) : Nat :=
  (arena.get? index).elim 0 owners

/-- Everything counts as many owners as it has holders, and at least one. -/
structure Owned (arena : Arena Value) (owners : Value → Nat) (holders : Nat → Nat) : Prop where
  counted : ∀ index, arena.ownersOf owners index = holders index
  positive : ∀ index value, arena.get? index = some value → 0 < owners value

theorem owned_empty (owners : Value → Nat) (unheld : ∀ index, holders index = 0) :
    (empty : Arena Value).Owned owners holders := by
  refine ⟨fun index => (unheld index).symm, ?_⟩
  intro index value found
  cases found

theorem Owned.congr (owned : arena.Owned owners before)
    (same : ∀ index, before index = holders index) : arena.Owned owners holders :=
  ⟨fun index => (owned.counted index).trans (same index), owned.positive⟩

theorem Owned.held_iff (owned : arena.Owned owners holders) (index : Nat) :
    0 < holders index ↔ ∃ value, arena.get? index = some value := by
  rw [← owned.counted index, ownersOf]
  cases found : arena.get? index with
  | none => simp
  | some value => simpa using owned.positive index value found

theorem Owned.eq_none (owned : arena.Owned owners holders) {index : Nat}
    (unheld : holders index = 0) : arena.get? index = none := by
  cases found : arena.get? index with
  | none => rfl
  | some value =>
      have positive := (owned.held_iff index).2 ⟨value, found⟩
      omega

theorem Owned.modify (owned : arena.Owned owners holders) (index : Nat) (change : Value → Value)
    (same : ∀ value, owners (change value) = owners value) :
    (arena.modify index change).Owned owners holders := by
  constructor
  · intro other
    rw [← owned.counted other, ownersOf, ownersOf, get?_modify]
    by_cases here : other = index
    · rw [if_pos here, here]
      cases arena.get? index with
      | none => rfl
      | some value => exact same value
    · rw [if_neg here]
  · intro other value found
    rw [get?_modify] at found
    by_cases here : other = index
    · rw [if_pos here, Option.map_eq_some_iff] at found
      obtain ⟨previous, there, rfl⟩ := found
      rw [same]
      exact owned.positive index previous there
    · rw [if_neg here] at found
      exact owned.positive other value found

theorem Owned.add (owned : arena.Owned owners holders) {index : Nat} (change : Value → Value)
    (more : ∀ value, owners (change value) = owners value + 1)
    (present : ∃ value, arena.get? index = some value) :
    (arena.modify index change).Owned owners (fun other => holders other + [index].count other) := by
  obtain ⟨held, there⟩ := present
  constructor
  · intro other
    rw [← owned.counted other, ownersOf, ownersOf, get?_modify]
    by_cases here : other = index
    · rw [if_pos here, here, there, Option.map_some, Option.elim_some, Option.elim_some, more,
        List.count_singleton_self]
    · rw [if_neg here, List.count_eq_zero_of_not_mem (by simpa using here), Nat.add_zero]
  · intro other value found
    rw [get?_modify] at found
    by_cases here : other = index
    · rw [if_pos here, there, Option.map_some, Option.some.injEq] at found
      rw [← found, more]
      exact Nat.succ_pos _
    · rw [if_neg here] at found
      exact owned.positive other value found

theorem Owned.insert (owned : arena.Owned owners holders) (value : Value) (one : owners value = 1) :
    (arena.insert value).2.Owned owners (fun other => holders other + [arena.next].count other) := by
  constructor
  · intro other
    rw [← owned.counted other, ownersOf, ownersOf, get?_insert]
    by_cases here : other = arena.next
    · rw [if_pos here, here, get?_next, Option.elim_some, Option.elim_none, one,
        List.count_singleton_self]
    · rw [if_neg here, List.count_eq_zero_of_not_mem (by simpa using here), Nat.add_zero]
  · intro other state found
    rw [get?_insert] at found
    by_cases here : other = arena.next
    · rw [if_pos here, Option.some.injEq] at found
      rw [← found, one]
      exact Nat.one_pos
    · rw [if_neg here] at found
      exact owned.positive other state found

section Release

variable {index : Nat} {held : Value}

theorem Owned.present (owned : arena.Owned owners before)
    (given : ∀ other, before other = holders other + [index].count other) :
    ∃ value, arena.get? index = some value := by
  have here := given index
  rw [List.count_singleton_self] at here
  exact (owned.held_iff index).1 (by omega)

theorem Owned.owners_eq (owned : arena.Owned owners before)
    (given : ∀ other, before other = holders other + [index].count other)
    (found : arena.get? index = some held) : owners held = holders index + 1 := by
  have counted := owned.counted index
  rwa [ownersOf, found, Option.elim_some, given, List.count_singleton_self] at counted

theorem Owned.decrement (owned : arena.Owned owners before)
    (given : ∀ other, before other = holders other + [index].count other)
    (found : arena.get? index = some held) (more : 1 < owners held) (change : Value → Value)
    (less : owners (change held) = owners held - 1) :
    (arena.modify index change).Owned owners holders := by
  have count := owned.owners_eq given found
  constructor
  · intro other
    rw [ownersOf, get?_modify]
    by_cases here : other = index
    · rw [if_pos here, here, found, Option.map_some, Option.elim_some, less]
      omega
    · have counted := owned.counted other
      rw [given, List.count_eq_zero_of_not_mem (by simpa using here)] at counted
      rw [if_neg here]
      exact counted
  · intro other value present
    rw [get?_modify] at present
    by_cases here : other = index
    · rw [if_pos here, found, Option.map_some, Option.some.injEq] at present
      rw [← present, less]
      omega
    · rw [if_neg here] at present
      exact owned.positive other value present

/-- The last owner goes, and what was owned with it. -/
theorem Owned.erase (owned : arena.Owned owners before)
    (given : ∀ other, before other = holders other + [index].count other)
    (found : arena.get? index = some held) (last : ¬ 1 < owners held) :
    (arena.erase index).Owned owners holders := by
  have count := owned.owners_eq given found
  constructor
  · intro other
    rw [ownersOf, get?_erase]
    by_cases here : other = index
    · rw [if_pos here, here, Option.elim_none]
      omega
    · have counted := owned.counted other
      rw [given, List.count_eq_zero_of_not_mem (by simpa using here)] at counted
      rw [if_neg here]
      exact counted
  · intro other value present
    rw [get?_erase] at present
    by_cases here : other = index
    · simp [here] at present
    · rw [if_neg here] at present
      exact owned.positive other value present

end Release

end Arena

end PubSub
