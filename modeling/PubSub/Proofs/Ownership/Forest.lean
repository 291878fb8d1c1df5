import PubSub.Ownership.Forest
import PubSub.Proofs.Owned
import PubSub.Proofs.Total

/-!
Owners of handles.  A handle is owned by its children and by whoever else holds it; the latter enter as a
count from outside.  Letting go of a handle finalizes it and those of its ancestors that lose their last
owner with it, children first, and nothing else.
-/

namespace PubSub

/-- What a handle is, apart from how many own it. -/
def Handle.content {Resource : Type} (handle : Handle Resource) : Bytes × Resource × Option Nat :=
  (handle.kind, handle.resource, handle.parent)

namespace Forest

variable {Resource State : Type} {forest later : Forest Resource} {outside before : Nat → Nat}

def children (forest : Forest Resource) (handle : Nat) : Nat :=
  forest.handles.total (fun held => held.parent.toList.count handle)

/-- Every handle has as many owners as it has children and holders outside, and at least one. -/
structure Balanced (forest : Forest Resource) (outside : Nat → Nat) : Prop where
  owned : forest.handles.Owned Handle.owners
    (fun handle => outside handle + forest.children handle)
  older : ∀ handle held parent, forest.get? handle = some held → held.parent = some parent →
    parent < handle

theorem Balanced.congr (balanced : forest.Balanced before)
    (same : ∀ handle, before handle = outside handle) : forest.Balanced outside :=
  ⟨balanced.owned.congr (fun handle => by rw [same]), balanced.older⟩

theorem balanced_empty (unheld : ∀ handle, outside handle = 0) :
    (empty : Forest Resource).Balanced outside := by
  refine ⟨Arena.owned_empty _ (fun handle => ?_), ?_⟩
  · rw [unheld]
    rfl
  · intro handle held parent found
    cases found

theorem Balanced.owned_iff (balanced : forest.Balanced outside) (handle : Nat) :
    0 < outside handle + forest.children handle ↔ ∃ held, forest.get? handle = some held :=
  balanced.owned.held_iff handle

theorem children_pos_of_parent {child parent : Nat} {held : Handle Resource}
    (found : forest.get? child = some held) (above : held.parent = some parent) :
    0 < forest.children parent := by
  have atMost := forest.handles.le_total found (fun held => held.parent.toList.count parent)
  rw [above, Option.toList_some, List.count_singleton_self] at atMost
  exact atMost

theorem exists_child_of_children_pos {parent : Nat} (positive : 0 < forest.children parent) :
    ∃ child held, forest.get? child = some held ∧ held.parent = some parent := by
  obtain ⟨child, held, found, counts⟩ := forest.handles.exists_of_total_pos _ positive
  have member : parent ∈ held.parent.toList := List.count_pos_iff.mp counts
  rw [Option.mem_toList] at member
  exact ⟨child, held, found, member⟩

theorem Balanced.exists_parent (balanced : forest.Balanced outside) {child parent : Nat}
    {held : Handle Resource} (found : forest.get? child = some held)
    (above : held.parent = some parent) : ∃ owner, forest.get? parent = some owner := by
  have positive := children_pos_of_parent found above
  exact (balanced.owned_iff parent).1 (by omega)

/-- Where nobody holds a handle from outside, there is none: the youngest would have no owner. -/
theorem Balanced.eq_none (balanced : forest.Balanced outside) (unheld : ∀ handle, outside handle = 0)
    (handle : Nat) : forest.get? handle = none := by
  -- From the youngest down: an owner would be a child, which is younger.
  have young : ∀ distance other, forest.handles.next ≤ other + distance →
      forest.get? other = none := by
    intro distance
    induction distance with
    | zero =>
        intro other late
        cases found : forest.get? other with
        | none => rfl
        | some held => exact absurd (forest.handles.lt_next_of_get? found) (by omega)
    | succ distance ih =>
        intro other late
        cases found : forest.get? other with
        | none => rfl
        | some held =>
            have positive := (balanced.owned_iff other).2 ⟨held, found⟩
            rw [unheld, Nat.zero_add] at positive
            obtain ⟨child, young, there, above⟩ := exists_child_of_children_pos positive
            have older := balanced.older child young other there above
            rw [ih child (by omega)] at there
            cases there
  exact young forest.handles.next handle (Nat.le_add_left _ _)

theorem get?_modifyHandle (forest : Forest Resource) (handle other : Nat)
    (change : Handle Resource → Handle Resource) :
    ({ forest with handles := forest.handles.modify handle change } : Forest Resource).get? other =
      if other = handle then (forest.get? handle).map change else forest.get? other :=
  Arena.get?_modify forest.handles handle other change

theorem children_modifyHandle (forest : Forest Resource) (handle : Nat)
    (change : Handle Resource → Handle Resource) (parent : ∀ held, (change held).parent = held.parent)
    (other : Nat) :
    ({ forest with handles := forest.handles.modify handle change } : Forest Resource).children other =
      forest.children other := by
  have moved := forest.handles.total_modify handle change (fun held => held.parent.toList.count other)
  simp only [parent] at moved
  unfold children
  exact Nat.add_right_cancel moved

theorem older_modifyHandle (balanced : forest.Balanced outside) (handle : Nat)
    (change : Handle Resource → Handle Resource) (parent : ∀ held, (change held).parent = held.parent)
    (other : Nat) (held : Handle Resource) (above : Nat)
    (found : ({ forest with handles := forest.handles.modify handle change } : Forest Resource).get?
      other = some held) (parentage : held.parent = some above) : above < other := by
  rw [get?_modifyHandle] at found
  by_cases same : other = handle
  · rw [if_pos same, Option.map_eq_some_iff] at found
    obtain ⟨previous, there, rfl⟩ := found
    rw [parent] at parentage
    exact same ▸ balanced.older handle previous above there parentage
  · rw [if_neg same] at found
    exact balanced.older other held above found parentage

theorem Balanced.modify (balanced : forest.Balanced outside) (handle : Nat)
    (change : Resource → Resource) : (forest.modify handle change).Balanced outside := by
  have children := children_modifyHandle forest handle
    (fun held => { held with resource := change held.resource }) (fun _ => rfl)
  refine ⟨?_, older_modifyHandle balanced handle _ (fun _ => rfl)⟩
  refine (balanced.owned.modify handle
    (fun held => { held with resource := change held.resource }) (fun _ => rfl)).congr
      (fun other => ?_)
  exact congrArg (outside other + ·) (children other).symm

theorem Balanced.retain (balanced : forest.Balanced outside) (handle : Nat)
    (present : ∃ held, forest.get? handle = some held) :
    (forest.retain handle).Balanced (fun other => outside other + [handle].count other) := by
  have children := children_modifyHandle forest handle
    (fun held => { held with owners := held.owners + 1 }) (fun _ => rfl)
  refine ⟨?_, older_modifyHandle balanced handle _ (fun _ => rfl)⟩
  refine (balanced.owned.add _ (fun _ => rfl) present).congr (fun other => ?_)
  have here : (forest.retain handle).children other = forest.children other := children other
  omega

theorem Balanced.insert {parent : Option Nat}
    (balanced : forest.Balanced (fun other => outside other + parent.toList.count other))
    (kind : Bytes) (resource : Resource) (below : ∀ above ∈ parent, above < forest.handles.next) :
    ({ forest with
        handles := (forest.handles.insert { kind, resource, parent, owners := 1 }).2 } :
        Forest Resource).Balanced
      (fun other => outside other + [forest.handles.next].count other) := by
  constructor
  · refine (balanced.owned.insert { kind, resource, parent, owners := 1 } rfl).congr (fun other => ?_)
    have children := forest.handles.total_insert { kind, resource, parent, owners := 1 }
      (fun held => held.parent.toList.count other)
    unfold Forest.children
    dsimp only at children ⊢
    omega
  · intro other state above found parentage
    rw [Forest.get?, Arena.get?_insert] at found
    by_cases same : other = forest.handles.next
    · rw [if_pos same, Option.some.injEq] at found
      subst state
      exact same ▸ below above parentage
    · rw [if_neg same] at found
      exact balanced.older other state above found parentage

theorem Balanced.make (balanced : forest.Balanced outside) (kind : Bytes) (resource : Resource)
    (parent : Option Nat)
    (present : ∀ above ∈ parent, ∃ held, forest.get? above = some held) :
    (forest.make kind resource parent).2.Balanced
      (fun other => outside other + [forest.handles.next].count other) := by
  unfold Forest.make
  cases parent with
  | none =>
      have alone : forest.Balanced (fun other => outside other + (none : Option Nat).toList.count other) :=
        balanced.congr (fun _ => rfl)
      exact alone.insert kind resource (fun _ member => nomatch member)
  | some above =>
      obtain ⟨held, found⟩ := present above rfl
      have retained : (forest.retain above).Balanced
          (fun other => outside other + (some above).toList.count other) :=
        balanced.retain above ⟨held, found⟩
      refine retained.insert kind resource ?_
      intro other member
      rw [Option.mem_some_iff] at member
      exact member ▸ forest.handles.lt_next_of_get? found

theorem content_retain (forest : Forest Resource) (handle other : Nat) :
    ((forest.retain handle).get? other).map Handle.content =
      (forest.get? other).map Handle.content := by
  unfold Forest.retain
  rw [get?_modifyHandle]
  by_cases same : other = handle
  · rw [if_pos same, same, Option.map_map]
    rfl
  · rw [if_neg same]

theorem content_make (forest : Forest Resource) (kind : Bytes) (resource : Resource)
    (parent : Option Nat) (other : Nat) :
    ((forest.make kind resource parent).2.get? other).map Handle.content =
      if other = forest.handles.next then some (kind, resource, parent)
      else (forest.get? other).map Handle.content := by
  unfold Forest.make
  cases parent with
  | none =>
      rw [Forest.get?, Arena.get?_insert]
      by_cases same : other = forest.handles.next
      · rw [if_pos same, if_pos same]
        rfl
      · rw [if_neg same, if_neg same]
        rfl
  | some above =>
      have next : (forest.retain above).handles.next = forest.handles.next := rfl
      rw [Forest.get?, Arena.get?_insert, next]
      by_cases same : other = forest.handles.next
      · rw [if_pos same, if_pos same]
        rfl
      · rw [if_neg same, if_neg same]
        exact forest.content_retain above other

end Forest

end PubSub
