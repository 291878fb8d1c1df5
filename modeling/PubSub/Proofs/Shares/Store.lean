import Mathlib.Data.Finset.Card
import PubSub.Proofs.Owned
import PubSub.Proofs.Total
import PubSub.Transport.Queue

/-!
Shares of samples and their owners.  A store is sound for a count of owners if every sample has as many
shares as it has owners, and settled if its ledger accounts for the samples that exist.
-/

namespace PubSub

theorem SampleQueue.push_cases (queue : SampleQueue) (sample : Nat) :
    ∃ left, (queue.push sample).1 ++ left = queue.waiting ∧
      (queue.push sample).2.waiting = left ++ [sample] := by
  unfold push
  by_cases all : queue.keepAll
  · rw [if_pos all]
    exact ⟨queue.waiting, rfl, rfl⟩
  · rw [if_neg all]
    exact ⟨_, makeRoom_append queue.limit queue.waiting queue.count, rfl⟩

theorem Ledger.calls_note_same {Field : Type} {field : Calls → Field} (ledger : Ledger)
    (kind other : MessageKind) {change : Calls → Calls}
    (same : ∀ calls, field (change calls) = field calls) :
    field ((ledger.note kind change).calls other) = field (ledger.calls other) := by
  rw [calls_note]
  split
  · rename_i equal
    rw [same, equal]
  · rfl

namespace SampleStore

variable {store : SampleStore} {owners before : Nat → Nat}

def sharesOf (store : SampleStore) (sample : Nat) : Nat :=
  store.samples.ownersOf Sample.shares sample

def Sound (store : SampleStore) (owners : Nat → Nat) : Prop :=
  store.samples.Owned Sample.shares owners

theorem Sound.counted (sound : store.Sound owners) (sample : Nat) :
    store.sharesOf sample = owners sample :=
  Arena.Owned.counted sound sample

theorem Sound.congr (sound : store.Sound before) (same : ∀ sample, before sample = owners sample) :
    store.Sound owners :=
  Arena.Owned.congr sound same

theorem Sound.retain (sound : store.Sound owners) (sample : Nat) (owned : 0 < owners sample) :
    (store.retain sample).Sound (fun other => owners other + [sample].count other) :=
  Arena.Owned.add sound _ (fun _ => rfl) ((Arena.Owned.held_iff sound sample).1 owned)

theorem Sound.release (sound : store.Sound before) (sample : Nat)
    (given : ∀ other, before other = owners other + [sample].count other) :
    (store.release sample).Sound owners := by
  obtain ⟨held, found⟩ := Arena.Owned.present sound given
  unfold SampleStore.release
  rw [found]
  by_cases last : held.shares ≤ 1
  · simp only [if_pos last]
    exact Arena.Owned.erase sound given found (Nat.not_lt_of_le last)
  · simp only [if_neg last]
    exact Arena.Owned.decrement sound given found (Nat.lt_of_not_le last) _ rfl

theorem Sound.releaseAll (samples : List Nat) (sound : store.Sound before)
    (given : ∀ other, before other = owners other + samples.count other) :
    (store.releaseAll samples).Sound owners := by
  induction samples generalizing store before with
  | nil => exact sound.congr given
  | cons sample rest ih =>
      have left : (store.release sample).Sound (fun other => owners other + rest.count other) := by
        refine sound.release sample (fun other => ?_)
        rw [given, count_cons_eq]
        omega
      exact ih left (fun _ => rfl)

/-- A refused copy leaves no sample; any other makes the next one. -/
theorem create_cases (store : SampleStore) (kind : MessageKind) (message : Layout) :
    ((store.ledger.noteInit kind).copy kind message kind.fresh).1 = none ∧
        (store.create kind message).1 = none ∧
        (store.create kind message).2.samples = store.samples ∨
      ∃ content,
        ((store.ledger.noteInit kind).copy kind message kind.fresh).1 = some content ∧
        (store.create kind message).1 = some store.samples.next ∧
        (store.create kind message).2.samples =
          (store.samples.insert { kind, content, shares := 1 }).2 := by
  unfold create
  rcases (store.ledger.noteInit kind).copy kind message kind.fresh with ⟨_ | content, ledger⟩
  · exact .inl ⟨rfl, rfl, rfl⟩
  · exact .inr ⟨content, rfl, rfl, rfl⟩

theorem Sound.create_none (sound : store.Sound owners) {kind : MessageKind} {message : Layout}
    {created : SampleStore} (refused : store.create kind message = (none, created)) :
    created.Sound owners := by
  rcases store.create_cases kind message with ⟨_, _, same⟩ | ⟨_, _, made, _⟩
  · rw [refused] at same
    unfold Sound
    rw [same]
    exact sound
  · rw [refused] at made
    cases made

theorem Sound.create_some (sound : store.Sound owners) {kind : MessageKind} {message : Layout}
    {sample : Nat} {created : SampleStore} (made : store.create kind message = (some sample, created)) :
    created.Sound (fun other => owners other + [sample].count other) := by
  rcases store.create_cases kind message with ⟨_, none, _⟩ | ⟨content, _, next, samples⟩
  · rw [made] at none
    cases none
  · rw [made, Option.some.injEq] at next
    rw [made] at samples
    unfold Sound
    rw [samples, next]
    exact Arena.Owned.insert sound { kind, content, shares := 1 } rfl

/-- Putting a sample into a queue takes a share for it and gives up those of the samples that it displaces. -/
theorem Sound.enqueue (sound : store.Sound before) (queue : SampleQueue) (sample : Nat)
    (given : ∀ other, before other = owners other + queue.waiting.count other)
    (kept : 0 < owners sample) :
    (store.enqueue queue sample).2.Sound
      (fun other => owners other + (store.enqueue queue sample).1.waiting.count other) := by
  obtain ⟨left, split, pushed⟩ := queue.push_cases sample
  have evicted : (store.releaseAll (queue.push sample).1).Sound
      (fun other => owners other + left.count other) := by
    refine sound.releaseAll (queue.push sample).1 (fun other => ?_)
    have counts := congrArg (List.count other) split
    rw [List.count_append] at counts
    have here := given other
    omega
  have retained := evicted.retain sample (Nat.lt_of_lt_of_le kept (Nat.le_add_right _ _))
  refine retained.congr (fun other => ?_)
  have last : (store.enqueue queue sample).1.waiting = left ++ [sample] := pushed
  rw [last, List.count_append, Nat.add_assoc]

def stored (store : SampleStore) (kind : MessageKind) : Nat :=
  store.samples.total (fun held => if held.kind = kind then 1 else 0)

theorem stored_eq_card (store : SampleStore) {kind : MessageKind} {samples : Finset Nat}
    (mem_iff : ∀ sample, sample ∈ samples ↔
      ∃ held, store.samples.get? sample = some held ∧ held.kind = kind) :
    store.stored kind = samples.card := by
  let cells := store.samples.cells.entries.filter (fun entry => entry.2.kind = kind)
  have keys : samples = (cells.map Prod.fst).toFinset := by
    ext sample
    rw [mem_iff, List.mem_toFinset, List.mem_map]
    constructor
    · rintro ⟨held, found, its⟩
      have entry := (store.samples.cells.get?_eq_some_iff sample held).1 found
      exact ⟨(sample, held), List.mem_filter.2 ⟨entry, decide_eq_true its⟩, rfl⟩
    · rintro ⟨⟨_, held⟩, listed, rfl⟩
      obtain ⟨entry, its⟩ := List.mem_filter.1 listed
      exact ⟨held, (store.samples.cells.get?_eq_some_iff _ held).2 entry, of_decide_eq_true its⟩
  have distinct : (cells.map Prod.fst).Nodup :=
    (List.filter_sublist.map Prod.fst).nodup store.samples.cells.distinct
  rw [keys, List.toFinset_card_of_nodup distinct, List.length_map]
  exact store.samples.cells.total_ite (fun held => held.kind = kind)

/--
The later store makes no sample, those it still has hold what they held, and those that are gone were
released.  Nothing is encoded meanwhile.
-/
structure SharesOnly (store later : SampleStore) : Prop where
  next : later.samples.next = store.samples.next
  init : ∀ kind, (later.ledger.calls kind).init = (store.ledger.calls kind).init
  fini : ∀ kind, (later.ledger.calls kind).fini + later.stored kind =
    (store.ledger.calls kind).fini + store.stored kind
  acquired : ∀ kind, (later.ledger.calls kind).acquired = (store.ledger.calls kind).acquired
  released : ∀ kind, (later.ledger.calls kind).released = (store.ledger.calls kind).released
  held : ∀ sample held, later.samples.get? sample = some held →
    ∃ before, store.samples.get? sample = some before ∧ before.kind = held.kind ∧
      before.content = held.content

theorem SharesOnly.refl (store : SampleStore) : store.SharesOnly store :=
  ⟨rfl, fun _ => rfl, fun _ => rfl, fun _ => rfl, fun _ => rfl,
    fun _ held found => ⟨held, found, rfl, rfl⟩⟩

theorem SharesOnly.trans {first second third : SampleStore} (early : first.SharesOnly second)
    (late : second.SharesOnly third) : first.SharesOnly third := by
  refine ⟨late.next.trans early.next, fun kind => (late.init kind).trans (early.init kind),
    fun kind => (late.fini kind).trans (early.fini kind),
    fun kind => (late.acquired kind).trans (early.acquired kind),
    fun kind => (late.released kind).trans (early.released kind), ?_⟩
  intro sample held found
  obtain ⟨between, there, kind, content⟩ := late.held sample held found
  obtain ⟨before, first, sameKind, sameContent⟩ := early.held sample between there
  exact ⟨before, first, sameKind.trans kind, sameContent.trans content⟩

private theorem sharesOnly_modify (store : SampleStore) (sample : Nat) (change : Sample → Sample)
    (kind : ∀ held, store.samples.get? sample = some held → (change held).kind = held.kind)
    (content : ∀ held, store.samples.get? sample = some held → (change held).content = held.content) :
    store.SharesOnly { store with samples := store.samples.modify sample change } := by
  refine ⟨rfl, fun _ => rfl, fun other => ?_, fun _ => rfl, fun _ => rfl, ?_⟩
  · have moved := store.samples.total_modify sample change
      (fun held => if held.kind = other then 1 else 0)
    cases found : store.samples.get? sample with
    | none =>
        simp only [found, Option.elim_none] at moved
        simp only [stored]
        omega
    | some held =>
        simp only [found, Option.elim_some, kind held found] at moved
        simp only [stored]
        omega
  · intro other held found
    rw [Arena.get?_modify] at found
    by_cases same : other = sample
    · rw [if_pos same, Option.map_eq_some_iff] at found
      obtain ⟨before, there, rfl⟩ := found
      exact ⟨before, same ▸ there, (kind before there).symm, (content before there).symm⟩
    · rw [if_neg same] at found
      exact ⟨held, found, rfl, rfl⟩

theorem sharesOnly_retain (store : SampleStore) (sample : Nat) :
    store.SharesOnly (store.retain sample) :=
  store.sharesOnly_modify sample _ (fun _ _ => rfl) (fun _ _ => rfl)

theorem sharesOnly_release (store : SampleStore) (sample : Nat) :
    store.SharesOnly (store.release sample) := by
  unfold SampleStore.release
  cases there : store.samples.get? sample with
  | none => exact .refl store
  | some state =>
      by_cases last : state.shares ≤ 1
      · simp only [if_pos last]
        refine ⟨rfl, fun kind => ?_, fun kind => ?_, fun kind => ?_, fun kind => ?_, ?_⟩
        · exact store.ledger.calls_note_same state.kind kind (fun _ => rfl)
        · have erased := store.samples.total_erase sample
            (fun held => if held.kind = kind then 1 else 0)
          rw [there, Option.elim_some] at erased
          simp only [stored, Ledger.noteFini, Ledger.calls_note]
          by_cases same : kind = state.kind
          · subst kind
            simp only [↓reduceIte] at erased ⊢
            omega
          · rw [if_neg (Ne.symm same)] at erased
            rw [if_neg same]
            omega
        · exact store.ledger.calls_note_same state.kind kind (fun _ => rfl)
        · exact store.ledger.calls_note_same state.kind kind (fun _ => rfl)
        · intro other held found
          rw [Arena.get?_erase] at found
          by_cases same : other = sample
          · simp [same] at found
          · rw [if_neg same] at found
            exact ⟨held, found, rfl, rfl⟩
      · simp only [if_neg last]
        refine store.sharesOnly_modify sample _ ?_ ?_
        · intro held found
          rw [there, Option.some.injEq] at found
          rw [found]
        · intro held found
          rw [there, Option.some.injEq] at found
          rw [found]

theorem sharesOnly_releaseAll (store : SampleStore) (samples : List Nat) :
    store.SharesOnly (store.releaseAll samples) := by
  induction samples generalizing store with
  | nil => exact .refl store
  | cons sample rest ih => exact (store.sharesOnly_release sample).trans (ih _)

theorem sharesOnly_enqueue (store : SampleStore) (queue : SampleQueue) (sample : Nat) :
    store.SharesOnly (store.enqueue queue sample).2 :=
  (store.sharesOnly_releaseAll (queue.push sample).1).trans (sharesOnly_retain _ sample)

/--
What was made of a kind and not released is the samples of that kind, and so many messages that are held
elsewhere.
-/
def Settled (store : SampleStore) (elsewhere : MessageKind → Nat) : Prop :=
  ∀ kind, (store.ledger.calls kind).init =
    (store.ledger.calls kind).fini + store.stored kind + elsewhere kind

variable {elsewhere : MessageKind → Nat}

theorem Settled.sharesOnly {later : SampleStore} (settled : store.Settled elsewhere)
    (only : store.SharesOnly later) : later.Settled elsewhere := by
  intro kind
  rw [only.init, only.fini]
  exact settled kind

theorem calls_copy_same {Field : Type} {field : Calls → Field} (ledger : Ledger)
    (kind other : MessageKind) (source destination : Layout)
    (same : ∀ calls, field { calls with copy := calls.copy + 1 } = field calls) :
    field ((ledger.copy kind source destination).2.calls other) = field (ledger.calls other) := by
  have noted : (ledger.copy kind source destination).2.calls other =
      (ledger.noteCopy kind).calls other := by
    unfold Ledger.copy
    split <;> rfl
  rw [noted]
  exact ledger.calls_note_same kind other same

theorem calls_copy (ledger : Ledger) (kind other : MessageKind) (source destination : Layout) :
    ((ledger.copy kind source destination).2.calls other).init = (ledger.calls other).init ∧
      ((ledger.copy kind source destination).2.calls other).fini = (ledger.calls other).fini :=
  ⟨calls_copy_same ledger kind other source destination (fun _ => rfl),
    calls_copy_same ledger kind other source destination (fun _ => rfl)⟩

theorem Settled.create (settled : store.Settled elsewhere) (kind : MessageKind) (message : Layout) :
    (store.create kind message).2.Settled elsewhere := by
  intro other
  have before := settled other
  have copied := calls_copy (store.ledger.noteInit kind) kind other message kind.fresh
  unfold SampleStore.create
  generalize (store.ledger.noteInit kind).copy kind message kind.fresh = outcome at copied ⊢
  rcases outcome with ⟨_ | content, ledger⟩
  · simp only [Ledger.noteInit, Ledger.noteFini, Ledger.calls_note, stored] at before copied ⊢
    by_cases same : other = kind
    · subst other
      simp only [↓reduceIte] at copied ⊢
      omega
    · simp only [if_neg same] at copied ⊢
      omega
  · have inserted := store.samples.total_insert { kind, content, shares := 1 }
      (fun held => if held.kind = other then 1 else 0)
    simp only [Ledger.noteInit, Ledger.calls_note, stored] at before copied inserted ⊢
    by_cases same : other = kind
    · subst other
      simp only [↓reduceIte] at copied inserted ⊢
      omega
    · simp only [if_neg same, if_neg (Ne.symm same)] at copied inserted ⊢
      omega

end SampleStore

end PubSub
