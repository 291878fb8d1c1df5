import Mathlib.Data.List.Basic
import PubSub.Proofs.Ownership.Forest

/-!
Letting go of a handle.  The handles that are finalized with it are its ancestors for as far as they lose
their last owner, each as it was before, and every child before its parent.  What is finalized is recorded
for good, so each handle that was ever made is there still or was finalized exactly once.
-/

namespace PubSub.Forest

variable {Resource State : Type} {forest later : Forest Resource} {outside before : Nat → Nat}

structure Releases (finalize : Handle Resource → Option (Handle Resource) → State → State)
    (forest later : Forest Resource) (chain : List (Nat × Handle Resource)) (state after : State) :
    Prop where
  finalized : later.finalized = forest.finalized ++ chain
  next : later.handles.next = forest.handles.next
  held : ∀ entry ∈ chain, forest.get? entry.1 = some entry.2
  gone : ∀ entry ∈ chain, later.get? entry.1 = none
  kept : ∀ other, other ∉ chain.map Prod.fst →
    (later.get? other).map Handle.content = (forest.get? other).map Handle.content
  distinct : (chain.map Prod.fst).Nodup
  ordered : chain.Pairwise (fun early late => late.2.parent ≠ some early.1)
  state : after = chain.foldl
    (fun current entry => finalize entry.2 (entry.2.parent.bind forest.get?) current) state

variable {finalize : Handle Resource → Option (Handle Resource) → State → State}

section Balance

variable {handle : Nat} {held : Handle Resource}

private theorem givenUp (given : ∀ other, before other = outside other + [handle].count other)
    (other : Nat) : before other + forest.children other =
      outside other + forest.children other + [handle].count other := by
  have here := given other
  omega

/-- The last owner of a handle is neither a child of it nor any other. -/
theorem Balanced.last (balanced : forest.Balanced before)
    (given : ∀ other, before other = outside other + [handle].count other)
    (found : forest.get? handle = some held) (last : ¬ 1 < held.owners) :
    outside handle = 0 ∧ forest.children handle = 0 := by
  have count := balanced.owned.owners_eq (givenUp given) found
  omega

theorem Balanced.erase (balanced : forest.Balanced before)
    (given : ∀ other, before other = outside other + [handle].count other)
    (found : forest.get? handle = some held) (last : ¬ 1 < held.owners)
    (finalized : List (Nat × Handle Resource)) :
    ({ handles := forest.handles.erase handle, finalized } : Forest Resource).Balanced
      (fun other => outside other + held.parent.toList.count other) := by
  constructor
  · refine (balanced.owned.erase (givenUp given) found last).congr (fun other => ?_)
    have erased := forest.handles.total_erase handle (fun held => held.parent.toList.count other)
    have there : forest.handles.get? handle = some held := found
    rw [there, Option.elim_some] at erased
    unfold Forest.children
    dsimp only
    omega
  · intro other state parent present above
    rw [Forest.get?, Arena.get?_erase] at present
    by_cases same : other = handle
    · simp [same] at present
    · rw [if_neg same] at present
      exact balanced.older other state parent present above

theorem Balanced.decrement (balanced : forest.Balanced before)
    (given : ∀ other, before other = outside other + [handle].count other)
    (found : forest.get? handle = some held) (more : 1 < held.owners) :
    ({ forest with
        handles :=
          forest.handles.modify handle (fun _ => { held with owners := held.owners - 1 }) } :
        Forest Resource).Balanced outside := by
  constructor
  · refine (balanced.owned.decrement (givenUp given) found more
      (fun _ => { held with owners := held.owners - 1 }) rfl).congr (fun other => ?_)
    have moved := forest.handles.total_modify handle
      (fun _ => { held with owners := held.owners - 1 }) (fun held => held.parent.toList.count other)
    have there : forest.handles.get? handle = some held := found
    rw [there, Option.elim_some, Option.elim_some] at moved
    unfold Forest.children
    dsimp only at moved ⊢
    omega
  · intro other state parent present above
    rw [get?_modifyHandle] at present
    by_cases same : other = handle
    · rw [if_pos same, found, Option.map_some, Option.some.injEq] at present
      subst state
      exact same ▸ balanced.older handle held parent found above
    · rw [if_neg same] at present
      exact balanced.older other state parent present above

end Balance

theorem Releases.none_gone (same : later.finalized = forest.finalized)
    (next : later.handles.next = forest.handles.next)
    (kept : ∀ other, (later.get? other).map Handle.content = (forest.get? other).map Handle.content)
    (state : State) : Releases finalize forest later [] state state where
  finalized := by rw [same, List.append_nil]
  next := next
  held := fun _ member => nomatch member
  gone := fun _ member => nomatch member
  kept := fun other _ => kept other
  distinct := List.nodup_nil
  ordered := List.Pairwise.nil
  state := rfl

/-- The first handle to go has no children; those that go after it go from the forest without it. -/
theorem Releases.cons {handle : Nat} {held : Handle Resource} {chain : List (Nat × Handle Resource)}
    {state after : State} (found : forest.get? handle = some held)
    (childless : ∀ child child', forest.get? child = some child' → child'.parent ≠ some handle)
    (rest : Releases finalize
      { handles := forest.handles.erase handle
        finalized := forest.finalized ++ [(handle, held)] } later chain
      (finalize held (held.parent.bind forest.get?) state) after) :
    Releases finalize forest later ((handle, held) :: chain) state after := by
  have there : ∀ entry ∈ chain, entry.1 ≠ handle ∧ forest.get? entry.1 = some entry.2 := by
    intro entry member
    have left := rest.held entry member
    rw [Forest.get?, Arena.get?_erase] at left
    by_cases same : entry.1 = handle
    · simp [same] at left
    · rw [if_neg same] at left
      exact ⟨same, left⟩
  have absent : handle ∉ chain.map Prod.fst := by
    intro member
    obtain ⟨entry, present, same⟩ := List.mem_map.mp member
    exact (there entry present).1 same
  constructor
  · rw [rest.finalized, List.append_assoc, List.singleton_append]
  · exact rest.next
  · intro entry member
    rcases List.mem_cons.mp member with rfl | member
    · exact found
    · exact (there entry member).2
  · intro entry member
    rcases List.mem_cons.mp member with rfl | member
    · have left := rest.kept handle absent
      rw [Forest.get?, Forest.get?, Arena.get?_erase, if_pos rfl, Option.map_none,
        Option.map_eq_none_iff] at left
      exact left
    · exact rest.gone entry member
  · intro other outside
    rw [List.map_cons, List.mem_cons, not_or] at outside
    rw [rest.kept other outside.2, Forest.get?, Arena.get?_erase, if_neg outside.1]
    rfl
  · rw [List.map_cons, List.nodup_cons]
    exact ⟨absent, rest.distinct⟩
  · rw [List.pairwise_cons]
    exact ⟨fun late member => childless late.1 late.2 (there late member).2, rest.ordered⟩
  · rw [rest.state, List.foldl_cons]
    refine List.foldl_ext _ _ _ (fun current entry member => ?_)
    cases above : entry.2.parent with
    | none => rfl
    | some parent =>
        have different : parent ≠ handle := by
          intro same
          exact childless entry.1 entry.2 (there entry member).2 (same ▸ above)
        rw [Option.bind_some, Option.bind_some, Forest.get?, Arena.get?_erase, if_neg different]
        rfl

variable (finalize) in
/-- Giving up one share of a handle finalizes a chain of handles and leaves the others balanced. -/
theorem Balanced.release (balanced : forest.Balanced before) (handle : Nat) (state : State)
    (given : ∀ other, before other = outside other + [handle].count other) :
    (forest.release finalize handle state).1.Balanced outside ∧
      ∃ chain, Releases finalize forest (forest.release finalize handle state).1 chain state
        (forest.release finalize handle state).2 := by
  -- By induction on the number of the handle: a parent has a smaller one.
  induction handle using Nat.strongRecOn generalizing forest state before with
  | ind handle ih =>
      have owned : 0 < before handle + forest.children handle := by
        have here := given handle
        rw [List.count_singleton_self] at here
        omega
      obtain ⟨held, found⟩ := (balanced.owned_iff handle).1 owned
      rw [Forest.release, found]
      by_cases more : 1 < held.owners
      · simp only [if_pos more]
        refine ⟨balanced.decrement given found more, [], ?_⟩
        apply Releases.none_gone
        · rfl
        · rfl
        · intro other
          rw [get?_modifyHandle]
          by_cases same : other = handle
          · rw [if_pos same, same, found]
            rfl
          · rw [if_neg same]
      · simp only [if_neg more]
        have left := balanced.erase given found more (forest.finalized ++ [(handle, held)])
        have childless : ∀ child child', forest.get? child = some child' →
            child'.parent ≠ some handle := by
          intro child child' present above
          have positive := children_pos_of_parent present above
          have none := (balanced.last given found more).2
          omega
        cases above : held.parent with
        | none =>
            rw [above] at left
            refine ⟨left.congr (fun _ => rfl), [(handle, held)],
              Releases.cons found childless ?_⟩
            rw [above]
            exact Releases.none_gone rfl rfl (fun _ => rfl) _
        | some parent =>
            have older := balanced.older handle held parent found above
            rw [above] at left
            simp only [dif_pos older]
            obtain ⟨settled, chain, released⟩ := ih parent older left
              (finalize held ((some parent).bind forest.get?) state) (fun _ => rfl)
            refine ⟨settled, (handle, held) :: chain, Releases.cons found childless ?_⟩
            rw [above]
            exact released

structure Recorded (forest : Forest Resource) : Prop where
  distinct : (forest.finalized.map Prod.fst).Nodup
  gone_iff : ∀ handle, handle ∈ forest.finalized.map Prod.fst ↔
    handle < forest.handles.next ∧ forest.get? handle = none
  ordered : forest.finalized.Pairwise (fun early late => late.2.parent ≠ some early.1)

theorem recorded_empty : (empty : Forest Resource).Recorded := by
  refine ⟨List.nodup_nil, fun handle => ⟨fun member => ?_, fun made => ?_⟩, List.Pairwise.nil⟩
  · cases member
  · exact absurd made.1 (Nat.not_lt_zero _)

theorem Recorded.count (recorded : forest.Recorded) (handle : Nat) :
    (forest.finalized.map Prod.fst).count handle =
      if handle < forest.handles.next ∧ forest.get? handle = none then 1 else 0 := by
  rw [recorded.distinct.count]
  exact if_congr (recorded.gone_iff handle) rfl rfl

theorem Recorded.same (recorded : forest.Recorded) (finalized : later.finalized = forest.finalized)
    (next : later.handles.next = forest.handles.next)
    (present : ∀ handle, later.get? handle = none ↔ forest.get? handle = none) : later.Recorded := by
  constructor
  · rw [finalized]
    exact recorded.distinct
  · intro handle
    rw [finalized, next, present]
    exact recorded.gone_iff handle
  · rw [finalized]
    exact recorded.ordered

theorem get?_modifyHandle_eq_none (forest : Forest Resource) (handle other : Nat)
    (change : Handle Resource → Handle Resource) :
    ({ forest with handles := forest.handles.modify handle change } : Forest Resource).get? other =
      none ↔ forest.get? other = none := by
  rw [get?_modifyHandle]
  by_cases same : other = handle
  · rw [if_pos same, same, Option.map_eq_none_iff]
  · rw [if_neg same]

theorem Recorded.modify (recorded : forest.Recorded) (handle : Nat) (change : Resource → Resource) :
    (forest.modify handle change).Recorded :=
  recorded.same rfl rfl (fun other => forest.get?_modifyHandle_eq_none handle other _)

theorem Recorded.retain (recorded : forest.Recorded) (handle : Nat) :
    (forest.retain handle).Recorded :=
  recorded.same rfl rfl (fun other => forest.get?_modifyHandle_eq_none handle other _)

theorem Recorded.insert (recorded : forest.Recorded) (held : Handle Resource) :
    ({ forest with handles := (forest.handles.insert held).2 } : Forest Resource).Recorded := by
  refine ⟨recorded.distinct, fun handle => ?_, recorded.ordered⟩
  have next : (forest.handles.insert held).2.next = forest.handles.next + 1 := rfl
  have before := recorded.gone_iff handle
  rw [Forest.get?, Arena.get?_insert, next]
  rw [Forest.get?] at before
  by_cases same : handle = forest.handles.next
  · have fresh : ¬ handle < forest.handles.next := by omega
    simp [same] at before ⊢
    exact before
  · rw [if_neg same, before]
    exact and_congr_left (fun _ => by omega)

theorem Recorded.make (recorded : forest.Recorded) (kind : Bytes) (resource : Resource)
    (parent : Option Nat) : (forest.make kind resource parent).2.Recorded := by
  unfold Forest.make
  cases parent with
  | none => exact recorded.insert _
  | some above => exact (recorded.retain above).insert _

theorem Recorded.releases (recorded : forest.Recorded) (balanced : forest.Balanced outside)
    {chain : List (Nat × Handle Resource)} {state after : State}
    (released : Releases finalize forest later chain state after) : later.Recorded := by
  have present : ∀ handle, handle ∈ chain.map Prod.fst →
      ∃ held, forest.get? handle = some held := by
    intro handle member
    obtain ⟨entry, there, rfl⟩ := List.mem_map.mp member
    exact ⟨entry.2, released.held entry there⟩
  have apart : ∀ handle, handle ∈ forest.finalized.map Prod.fst → handle ∉ chain.map Prod.fst := by
    intro handle old new
    obtain ⟨held, found⟩ := present handle new
    rw [((recorded.gone_iff handle).1 old).2] at found
    cases found
  constructor
  · rw [released.finalized, List.map_append, List.nodup_append]
    refine ⟨recorded.distinct, released.distinct, ?_⟩
    intro early old late new same
    exact apart early old (same ▸ new)
  · intro handle
    rw [released.finalized, List.map_append, List.mem_append, released.next]
    constructor
    · rintro (old | new)
      · have before := (recorded.gone_iff handle).1 old
        have kept := released.kept handle (apart handle old)
        rw [before.2, Option.map_none, Option.map_eq_none_iff] at kept
        exact ⟨before.1, kept⟩
      · obtain ⟨held, found⟩ := present handle new
        obtain ⟨entry, there, rfl⟩ := List.mem_map.mp new
        exact ⟨forest.handles.lt_next_of_get? found, released.gone entry there⟩
    · rintro ⟨made, none⟩
      by_cases new : handle ∈ chain.map Prod.fst
      · exact .inr new
      · have kept := released.kept handle new
        rw [none, Option.map_none] at kept
        exact .inl ((recorded.gone_iff handle).2 ⟨made, Option.map_eq_none_iff.mp kept.symm⟩)
  · rw [released.finalized, List.pairwise_append]
    refine ⟨recorded.ordered, released.ordered, ?_⟩
    intro early old late new above
    obtain ⟨owner, found⟩ := balanced.exists_parent (released.held late new) above
    have gone := ((recorded.gone_iff early.1).1 (List.mem_map_of_mem old)).2
    rw [gone] at found
    cases found

end PubSub.Forest
