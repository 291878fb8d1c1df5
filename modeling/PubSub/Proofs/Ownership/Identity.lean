import PubSub.Proofs.Ownership.Release

/-!
What a handle is.  Its kind, its resource and its parent are settled when it is made, and are still on
record when it is gone.
-/

namespace PubSub

namespace Table

variable {Key Value : Type} [DecidableEq Key]

theorem find_append (key : Key) (left right : List (Key × Value)) :
    find key (left ++ right) = (find key left).or (find key right) := by
  induction left with
  | nil => rfl
  | cons entry rest ih =>
      obtain ⟨head, value⟩ := entry
      by_cases same : key = head
      · simp [find, same]
      · simp [find, same, ih]

theorem find_eq_none (key : Key) (entries : List (Key × Value))
    (absent : key ∉ entries.map Prod.fst) : find key entries = none := by
  induction entries with
  | nil => rfl
  | cons entry rest ih =>
      obtain ⟨head, value⟩ := entry
      rw [List.map_cons, List.mem_cons, not_or] at absent
      rw [find, if_neg absent.1, ih absent.2]

end Table

namespace Forest

variable {Resource State : Type} {forest later : Forest Resource} {outside : Nat → Nat}

/-- What a handle is, or was when it was finalized. -/
def identity? (forest : Forest Resource) (handle : Nat) : Option (Bytes × Resource × Option Nat) :=
  ((forest.get? handle).map Handle.content).or
    ((Table.find handle forest.finalized).map Handle.content)

theorem identity?_of_get? {handle : Nat} {held : Handle Resource}
    (found : forest.get? handle = some held) : forest.identity? handle = some held.content := by
  rw [identity?, found]
  rfl

theorem Recorded.identity?_of_mem (recorded : forest.Recorded) {handle : Nat}
    {held : Handle Resource} (member : (handle, held) ∈ forest.finalized) :
    forest.identity? handle = some held.content := by
  have gone := ((recorded.gone_iff handle).1 (List.mem_map_of_mem (f := Prod.fst) member)).2
  have there := (Table.find_eq_some_iff handle held forest.finalized recorded.distinct).2 member
  rw [identity?, gone, there]
  rfl

/-- The handles that were made are those that are something, or were. -/
theorem Recorded.made_iff (recorded : forest.Recorded) (handle : Nat) :
    handle < forest.handles.next ↔ ∃ content, forest.identity? handle = some content := by
  constructor
  · intro made
    cases found : forest.get? handle with
    | some held => exact ⟨held.content, identity?_of_get? found⟩
    | none =>
        obtain ⟨⟨_, held⟩, member, rfl⟩ :=
          List.mem_map.mp ((recorded.gone_iff handle).2 ⟨made, found⟩)
        exact ⟨held.content, recorded.identity?_of_mem member⟩
  · rintro ⟨content, known⟩
    cases found : forest.get? handle with
    | some held => exact forest.handles.lt_next_of_get? found
    | none =>
        by_cases member : handle ∈ forest.finalized.map Prod.fst
        · exact ((recorded.gone_iff handle).1 member).1
        · rw [identity?, found, Table.find_eq_none handle _ member] at known
          cases known

theorem identity?_retain (forest : Forest Resource) (handle other : Nat) :
    (forest.retain handle).identity? other = forest.identity? other := by
  rw [identity?, content_retain]
  rfl

theorem identity?_make (forest : Forest Resource) (kind : Bytes) (resource : Resource)
    (parent : Option Nat) (other : Nat) :
    (forest.make kind resource parent).2.identity? other =
      if other = forest.handles.next then some (kind, resource, parent)
      else forest.identity? other := by
  have finalized : (forest.make kind resource parent).2.finalized = forest.finalized := by
    unfold Forest.make
    cases parent <;> rfl
  rw [identity?, content_make, finalized]
  by_cases same : other = forest.handles.next
  · rw [if_pos same, if_pos same]
    rfl
  · rw [if_neg same, if_neg same]
    rfl

theorem Recorded.identity?_releases (recorded : forest.Recorded)
    {finalize : Handle Resource → Option (Handle Resource) → State → State}
    {chain : List (Nat × Handle Resource)} {state after : State}
    (released : Releases finalize forest later chain state after) (handle : Nat) :
    later.identity? handle = forest.identity? handle := by
  rw [identity?, identity?, released.finalized, Table.find_append]
  by_cases goes : handle ∈ chain.map Prod.fst
  · obtain ⟨⟨other, held⟩, member, same⟩ := List.mem_map.mp goes
    dsimp only at same
    subst other
    have found := released.held _ member
    have absent : Table.find handle forest.finalized = none := by
      apply Table.find_eq_none
      intro old
      have gone := ((recorded.gone_iff _).1 old).2
      rw [found] at gone
      cases gone
    have there := (Table.find_eq_some_iff _ held chain released.distinct).2 member
    dsimp only at found
    rw [released.gone _ member, found, absent, there]
    rfl
  · rw [released.kept handle goes, Table.find_eq_none handle chain goes, Option.or_none]

end Forest

end PubSub
