import Mathlib.Data.List.Forall2
import PubSub.Table

/-!
Tables that are alike: the same keys in the same order, and values that belong together.
-/

namespace PubSub.Table

variable {Key Value Other : Type}

def map (table : Table Key Value) (change : Key → Value → Other) : Table Key Other :=
  { entries := table.entries.map (fun entry => (entry.1, change entry.1 entry.2))
    distinct := by
      rw [List.map_map]
      exact table.distinct }

def Alike (related : Key → Value → Other → Prop) (left : Table Key Value) (right : Table Key Other) :
    Prop :=
  List.Forall₂ (fun first second => first.1 = second.1 ∧ related first.1 first.2 second.2) left.entries
    right.entries

theorem alike_empty (related : Key → Value → Other → Prop) : Alike related empty empty :=
  .nil

theorem Alike.keys_eq {related : Key → Value → Other → Prop} {left : Table Key Value}
    {right : Table Key Other} (alike : Alike related left right) : left.keys = right.keys := by
  unfold keys
  unfold Alike at alike
  generalize left.entries = entries at alike ⊢
  generalize right.entries = others at alike ⊢
  induction alike with
  | nil => rfl
  | @cons first second rest restRight here _ ih => rw [List.map_cons, List.map_cons, here.1, ih]

variable [DecidableEq Key]

theorem entries_set_of_free (table : Table Key Value) {key : Key} (free : table.get? key = none)
    (value : Value) : (table.set key value).entries = table.entries ++ [(key, value)] := by
  have put_of_free : ∀ entries : List (Key × Value), key ∉ entries.map Prod.fst →
      put key value entries = entries ++ [(key, value)] := by
    intro entries
    induction entries with
    | nil => exact fun _ => rfl
    | cons entry rest ih =>
        intro absent
        obtain ⟨head, previous⟩ := entry
        rw [List.map_cons, List.mem_cons, not_or] at absent
        rw [put, if_neg absent.1, ih absent.2, List.cons_append]
  apply put_of_free
  intro member
  obtain ⟨found, there⟩ := (table.mem_keys_iff key).1 member
  rw [free] at there
  cases there

theorem entries_erase (table : Table Key Value) (key : Key) :
    (table.erase key).entries = table.entries.filter (fun entry => decide (key ≠ entry.1)) := by
  unfold erase
  dsimp only
  generalize table.entries = entries
  induction entries with
  | nil => rfl
  | cons entry rest ih =>
      obtain ⟨head, value⟩ := entry
      by_cases same : key = head
      · rw [remove, if_pos same, ih, List.filter_cons_of_neg (by simp [same])]
      · rw [remove, if_neg same, ih, List.filter_cons_of_pos (by simp [same])]

theorem erase_of_free {table : Table Key Value} {key : Key} (free : table.get? key = none) :
    table.erase key = table := by
  have entries : (table.erase key).entries = table.entries := by
    rw [table.entries_erase]
    apply List.filter_eq_self.2
    intro entry member
    apply decide_eq_true
    rintro rfl
    rw [(table.get?_eq_some_iff entry.1 entry.2).2 member] at free
    cases free
  cases table with
  | mk held distinct => exact (Table.mk.injEq ..).mpr entries

section Alike

variable {related after : Key → Value → Other → Prop} {left : Table Key Value}
  {right : Table Key Other} {key : Key}

theorem Alike.exists_right (alike : Alike related left right) {value : Value}
    (found : left.get? key = some value) :
    ∃ other, right.get? key = some other ∧ related key value other := by
  have partner : ∀ entry ∈ left.entries, ∃ second ∈ right.entries,
      entry.1 = second.1 ∧ related entry.1 entry.2 second.2 := by
    unfold Alike at alike
    generalize left.entries = entries at alike
    generalize right.entries = others at alike
    induction alike with
    | nil => exact fun entry member => nomatch member
    | @cons first second rest restRight here _ ih =>
        intro entry member
        rcases List.mem_cons.1 member with rfl | later
        · exact ⟨second, List.mem_cons_self, here⟩
        · obtain ⟨other, there, holds⟩ := ih entry later
          exact ⟨other, List.mem_cons_of_mem second there, holds⟩
  obtain ⟨⟨_, other⟩, there, rfl, holds⟩ :=
    partner (key, value) ((left.get?_eq_some_iff key value).1 found)
  exact ⟨other, (right.get?_eq_some_iff _ other).2 there, holds⟩

theorem Alike.exists_left (alike : Alike related left right) {other : Other}
    (found : right.get? key = some other) :
    ∃ value, left.get? key = some value ∧ related key value other := by
  have member : key ∈ left.keys := by
    rw [alike.keys_eq]
    exact (right.mem_keys_iff key).2 ⟨other, found⟩
  obtain ⟨value, there⟩ := (left.mem_keys_iff key).1 member
  obtain ⟨counterpart, same, holds⟩ := alike.exists_right there
  rw [found, Option.some.injEq] at same
  exact ⟨value, there, same ▸ holds⟩

theorem Alike.free (alike : Alike related left right) (free : left.get? key = none) :
    right.get? key = none := by
  cases found : right.get? key with
  | none => rfl
  | some other =>
      obtain ⟨value, there, _⟩ := alike.exists_left found
      rw [free] at there
      cases there

private theorem Alike.known (alike : Alike related left right) :
    List.Forall₂
      (fun first second => left.get? first.1 = some first.2 ∧
        first.1 = second.1 ∧ related first.1 first.2 second.2)
      left.entries right.entries :=
  (List.forall₂_and_left _ _).2
    ⟨fun entry member => (left.get?_eq_some_iff entry.1 entry.2).2 member, alike⟩

theorem Alike.map {Third : Type} {later : Key → Value → Third → Prop}
    (alike : Alike related left right) (change : Key → Other → Third)
    (keeps : ∀ key value other, left.get? key = some value → related key value other →
      later key value (change key other)) : Alike later left (right.map change) := by
  unfold Alike Table.map
  rw [List.forall₂_map_right_iff]
  refine alike.known.imp (fun first second both => ?_)
  obtain ⟨found, same, holds⟩ := both
  refine ⟨same, ?_⟩
  dsimp only
  rw [← same]
  exact keeps first.1 first.2 second.2 found holds

theorem Alike.mono (alike : Alike related left right)
    (keeps : ∀ key value other, left.get? key = some value → related key value other →
      after key value other) : Alike after left right := by
  refine alike.known.imp (fun first second both => ?_)
  exact ⟨both.2.1, keeps first.1 first.2 second.2 both.1 both.2.2⟩

theorem Alike.set (alike : Alike related left right) (free : left.get? key = none) {value : Value}
    {other : Other} (holds : related key value other) :
    Alike related (left.set key value) (right.set key other) := by
  unfold Alike
  rw [left.entries_set_of_free free, right.entries_set_of_free (alike.free free)]
  exact List.rel_append alike (.cons ⟨rfl, holds⟩ .nil)

theorem Alike.erase (alike : Alike related left right) (key : Key) :
    Alike related (left.erase key) (right.erase key) := by
  unfold Alike
  rw [entries_erase, entries_erase]
  exact List.rel_filter (fun first second here => by simp [here.1]) alike

end Alike

end PubSub.Table
