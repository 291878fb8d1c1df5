/-!
Finite tables.  A table keeps its keys in the order in which they were first set, and each only once;
every operation is described by what `get?` says afterwards.  An arena is a table whose keys are numbers
given out in ascending order and never twice.
-/

namespace PubSub

/-- A finite map, as a list of keys and values in which no key occurs twice. -/
structure Table (Key Value : Type) where
  entries : List (Key × Value)
  distinct : (entries.map Prod.fst).Nodup
  deriving Repr, DecidableEq

namespace Table

variable {Key Value : Type}

def empty : Table Key Value :=
  { entries := []
    distinct := List.nodup_nil }

instance : Inhabited (Table Key Value) := ⟨empty⟩

def keys (table : Table Key Value) : List Key :=
  table.entries.map Prod.fst

def values (table : Table Key Value) : List Value :=
  table.entries.map Prod.snd

def filter (table : Table Key Value) (accepts : Key × Value → Bool) : Table Key Value :=
  { entries := table.entries.filter accepts
    distinct := table.distinct.sublist (List.filter_sublist.map Prod.fst) }

variable [DecidableEq Key]

def find (key : Key) : List (Key × Value) → Option Value
  | [] => none
  | (other, value) :: rest => if key = other then some value else find key rest

def put (key : Key) (value : Value) : List (Key × Value) → List (Key × Value)
  | [] => [(key, value)]
  | (other, previous) :: rest =>
      if key = other then (key, value) :: rest else (other, previous) :: put key value rest

def remove (key : Key) : List (Key × Value) → List (Key × Value)
  | [] => []
  | (other, value) :: rest =>
      if key = other then remove key rest else (other, value) :: remove key rest

theorem mem_keys_put (key other : Key) (value : Value) (entries : List (Key × Value)) :
    other ∈ (put key value entries).map Prod.fst ↔ other = key ∨ other ∈ entries.map Prod.fst := by
  induction entries with
  | nil => simp [put]
  | cons entry rest ih =>
      obtain ⟨head, previous⟩ := entry
      by_cases same : key = head
      · subst head
        simp [put]
      · simp only [put, same, ↓reduceIte, List.map_cons, List.mem_cons, ih]
        exact or_left_comm

theorem nodup_keys_put (key : Key) (value : Value) (entries : List (Key × Value))
    (distinct : (entries.map Prod.fst).Nodup) : ((put key value entries).map Prod.fst).Nodup := by
  induction entries with
  | nil => simp [put]
  | cons entry rest ih =>
      obtain ⟨head, previous⟩ := entry
      simp only [List.map_cons, List.nodup_cons] at distinct
      by_cases same : key = head
      · subst head
        simpa [put] using distinct
      · simp only [put, same, ↓reduceIte, List.map_cons, List.nodup_cons, mem_keys_put, not_or]
        exact ⟨⟨fun equal => same equal.symm, distinct.1⟩, ih distinct.2⟩

theorem keys_remove (key : Key) (entries : List (Key × Value)) :
    (remove key entries).map Prod.fst =
      (entries.map Prod.fst).filter (fun other => decide (key ≠ other)) := by
  induction entries with
  | nil => rfl
  | cons entry rest ih =>
      obtain ⟨head, previous⟩ := entry
      by_cases same : key = head
      · rw [remove, if_pos same, ih, List.map_cons, List.filter_cons_of_neg (by simp [same])]
      · rw [remove, if_neg same, List.map_cons, ih, List.map_cons,
          List.filter_cons_of_pos (by simp [same])]

def get? (table : Table Key Value) (key : Key) : Option Value :=
  find key table.entries

def set (table : Table Key Value) (key : Key) (value : Value) : Table Key Value :=
  { entries := put key value table.entries
    distinct := nodup_keys_put key value table.entries table.distinct }

def erase (table : Table Key Value) (key : Key) : Table Key Value :=
  { entries := remove key table.entries
    distinct := by
      rw [keys_remove]
      exact table.distinct.sublist List.filter_sublist }

def contains (table : Table Key Value) (key : Key) : Bool :=
  (table.get? key).isSome

def modify (table : Table Key Value) (key : Key) (change : Value → Value) : Table Key Value :=
  match table.get? key with
  | some value => table.set key (change value)
  | none => table

theorem find_put (key other : Key) (value : Value) (entries : List (Key × Value)) :
    find other (put key value entries) = if other = key then some value else find other entries := by
  induction entries with
  | nil => simp [put, find]
  | cons entry rest ih =>
      obtain ⟨head, previous⟩ := entry
      by_cases same : key = head
      · subst head
        by_cases equal : other = key <;> simp [put, find, equal]
      · by_cases atHead : other = head
        · subst head
          simp [put, find, same, Ne.symm same]
        · simp [put, find, same, atHead, ih]

theorem find_remove (key other : Key) (entries : List (Key × Value)) :
    find other (remove key entries) = if other = key then none else find other entries := by
  induction entries with
  | nil => simp [remove, find]
  | cons entry rest ih =>
      obtain ⟨head, previous⟩ := entry
      by_cases same : key = head
      · subst head
        by_cases equal : other = key
        · subst other
          simpa [remove] using ih
        · simp [remove, find, equal, ih]
      · by_cases atHead : other = head
        · subst head
          simp [remove, find, same, Ne.symm same]
        · simp [remove, find, same, atHead, ih]

theorem get?_set (table : Table Key Value) (key other : Key) (value : Value) :
    (table.set key value).get? other = if other = key then some value else table.get? other :=
  find_put key other value table.entries

theorem get?_erase (table : Table Key Value) (key other : Key) :
    (table.erase key).get? other = if other = key then none else table.get? other :=
  find_remove key other table.entries

theorem get?_of_erase {table : Table Key Value} {key other : Key} {value : Value}
    (found : (table.erase key).get? other = some value) : table.get? other = some value := by
  rw [get?_erase] at found
  by_cases same : other = key
  · rw [if_pos same] at found
    cases found
  · rw [if_neg same] at found
    exact found

theorem get?_modify (table : Table Key Value) (key other : Key) (change : Value → Value) :
    (table.modify key change).get? other =
      if other = key then (table.get? key).map change else table.get? other := by
  unfold modify
  cases found : table.get? key with
  | none =>
      by_cases same : other = key
      · simp [same, found]
      · simp [same]
  | some value => simp [get?_set]

theorem find_eq_some_iff (key : Key) (value : Value) (entries : List (Key × Value))
    (distinct : (entries.map Prod.fst).Nodup) :
    find key entries = some value ↔ (key, value) ∈ entries := by
  induction entries with
  | nil => simp [find]
  | cons entry rest ih =>
      obtain ⟨head, first⟩ := entry
      simp only [List.map_cons, List.nodup_cons] at distinct
      by_cases same : key = head
      · subst head
        have absent : (key, value) ∉ rest :=
          fun member => distinct.1 (List.mem_map_of_mem (f := Prod.fst) member)
        simp [find, absent, eq_comm]
      · simp [find, same, ih distinct.2]

theorem get?_eq_some_iff (table : Table Key Value) (key : Key) (value : Value) :
    table.get? key = some value ↔ (key, value) ∈ table.entries :=
  find_eq_some_iff key value table.entries table.distinct

theorem mem_keys_iff (table : Table Key Value) (key : Key) :
    key ∈ table.keys ↔ ∃ value, table.get? key = some value := by
  unfold keys
  constructor
  · intro member
    obtain ⟨⟨_, value⟩, present, rfl⟩ := List.mem_map.mp member
    exact ⟨value, (table.get?_eq_some_iff _ _).2 present⟩
  · intro ⟨value, found⟩
    exact List.mem_map_of_mem (f := Prod.fst) ((table.get?_eq_some_iff _ _).1 found)

end Table

structure Arena (Value : Type) where
  cells : Table Nat Value
  next : Nat
  below : ∀ index ∈ cells.keys, index < next
  deriving Repr, DecidableEq

namespace Arena

variable {Value : Type}

def empty : Arena Value :=
  { cells := .empty
    next := 0
    below := fun _ member => nomatch member }

instance : Inhabited (Arena Value) := ⟨empty⟩

def get? (arena : Arena Value) (index : Nat) : Option Value :=
  arena.cells.get? index

theorem lt_next_of_get? (arena : Arena Value) {index : Nat} {value : Value}
    (found : arena.cells.get? index = some value) : index < arena.next :=
  arena.below index ((arena.cells.mem_keys_iff index).2 ⟨value, found⟩)

def insert (arena : Arena Value) (value : Value) : Nat × Arena Value :=
  (arena.next,
    { cells := arena.cells.set arena.next value
      next := arena.next + 1
      below := by
        intro index member
        obtain ⟨held, found⟩ := (Table.mem_keys_iff _ index).1 member
        rw [Table.get?_set] at found
        by_cases same : index = arena.next
        · omega
        · rw [if_neg same] at found
          exact Nat.lt_succ_of_lt (arena.lt_next_of_get? found) })

def modify (arena : Arena Value) (index : Nat) (change : Value → Value) : Arena Value :=
  { cells := arena.cells.modify index change
    next := arena.next
    below := by
      intro other member
      obtain ⟨held, found⟩ := (Table.mem_keys_iff _ other).1 member
      rw [Table.get?_modify] at found
      by_cases same : other = index
      · rw [if_pos same, Option.map_eq_some_iff] at found
        obtain ⟨previous, there, _⟩ := found
        exact same ▸ arena.lt_next_of_get? there
      · rw [if_neg same] at found
        exact arena.lt_next_of_get? found }

def erase (arena : Arena Value) (index : Nat) : Arena Value :=
  { cells := arena.cells.erase index
    next := arena.next
    below := by
      intro other member
      obtain ⟨held, found⟩ := (Table.mem_keys_iff _ other).1 member
      rw [Table.get?_erase] at found
      by_cases same : other = index
      · simp [same] at found
      · rw [if_neg same] at found
        exact arena.lt_next_of_get? found }

def contains (arena : Arena Value) (index : Nat) : Bool :=
  (arena.get? index).isSome

def size (arena : Arena Value) : Nat :=
  arena.cells.entries.length

theorem get?_next (arena : Arena Value) : arena.get? arena.next = none := by
  cases found : arena.get? arena.next with
  | none => rfl
  | some value => exact absurd (arena.lt_next_of_get? found) (Nat.lt_irrefl _)

theorem get?_insert (arena : Arena Value) (value : Value) (index : Nat) :
    (arena.insert value).2.get? index = if index = arena.next then some value else arena.get? index :=
  Table.get?_set arena.cells arena.next index value

theorem get?_modify (arena : Arena Value) (index other : Nat) (change : Value → Value) :
    (arena.modify index change).get? other =
      if other = index then (arena.get? index).map change else arena.get? other :=
  Table.get?_modify arena.cells index other change

theorem get?_erase (arena : Arena Value) (index other : Nat) :
    (arena.erase index).get? other = if other = index then none else arena.get? other :=
  Table.get?_erase arena.cells index other

end Arena

end PubSub
