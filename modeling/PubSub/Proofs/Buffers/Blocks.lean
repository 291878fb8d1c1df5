import PubSub.Proofs.Buffers.Steps
import PubSub.Proofs.Owned

/-!
Buffers by the storage that they own.  Here a native message is initialised in a block of storage, which is given out once;
a buffer has the number of its block or none, and a move passes that number on.  All that is initialised and finalized goes
into a log, which would show a block that is finalized twice or never.
-/

namespace PubSub.MessageBuffer

/-- A native message in its storage: the kind that it was initialised through, and what it says. -/
structure Block where
  kind : MessageKind
  layout : Layout
  deriving DecidableEq, Repr

structure Holder where
  kind : MessageKind
  block : Option Nat
  deriving DecidableEq, Repr

def Holder.emptied (holder : Holder) : Holder :=
  { holder with block := none }

def Holder.shares (holder : Holder) (block : Nat) : Nat :=
  holder.block.elim 0 (fun own => [own].count block)

inductive Event where
  | initialised (block : Nat) (kind : MessageKind)
  | finalized (block : Nat) (kind : MessageKind)
  deriving DecidableEq, Repr

def Event.block : Event → Nat
  | initialised block _ => block
  | finalized block _ => block

def Event.initialises (kind : MessageKind) : Event → Bool
  | initialised _ through => through = kind
  | finalized _ _ => false

def Event.finalizes (kind : MessageKind) : Event → Bool
  | initialised _ _ => false
  | finalized _ through => through = kind

/-- The blocks that are in use, the buffers by name, and what was done so far. -/
structure Depot where
  blocks : Arena Block
  holders : Table String Holder
  log : List Event

namespace Depot

def empty : Depot :=
  { blocks := .empty
    holders := .empty
    log := [] }

def initialise (depot : Depot) (kind : MessageKind) : Holder × Depot :=
  ({ kind, block := some depot.blocks.next },
    { depot with
      blocks := (depot.blocks.insert { kind, layout := kind.fresh }).2
      log := depot.log ++ [.initialised depot.blocks.next kind] })

def finalize (depot : Depot) (holder : Holder) : Depot :=
  match holder.block with
  | none => depot
  | some block =>
      { depot with
        blocks := depot.blocks.erase block
        log := depot.log ++ [.finalized block holder.kind] }

/-- A holder in hand gets a name, and the one that had it before is destroyed. -/
def place (depot : Depot) (name : String) (holder : Holder) : Depot :=
  let placed := { depot with holders := depot.holders.set name holder }
  match depot.holders.get? name with
  | none => placed
  | some previous => placed.finalize previous

def drop (depot : Depot) (name : String) : Depot :=
  match depot.holders.get? name with
  | none => depot
  | some holder => { depot with holders := depot.holders.erase name }.finalize holder

/-- What a holder has is passed on to another name, and the holder is emptied. -/
def move (depot : Depot) (name source : String) (holder : Holder) : Depot :=
  { depot with holders := depot.holders.set source holder.emptied }.place name holder

def write (depot : Depot) (holder : Holder) (payload : Payload) : Depot :=
  match holder.block with
  | none => depot
  | some block =>
      { depot with
        blocks := depot.blocks.modify block (fun held => { held with layout := held.layout.fill payload }) }

def buffer (depot : Depot) (holder : Holder) : MessageBuffer :=
  { kind := holder.kind
    storage := holder.block.bind (fun block => (depot.blocks.get? block).map Block.layout) }

def step (depot : Depot) (action : Action) : Answer × Depot :=
  match action with
  | .make _ none => (.misused .missingTypeSupport, depot)
  | .make name (some kind) =>
      let (holder, filled) := depot.initialise kind
      (.done, filled.place name holder)
  | .fill name payload =>
      match depot.holders.get? name with
      | none => (.unknownName, depot)
      | some holder => (.done, depot.write holder payload)
  | .view name kind =>
      match depot.holders.get? name with
      | none => (.unknownName, depot)
      | some holder =>
          if holder.kind = kind then (.viewed (depot.buffer holder).storage, depot)
          else (.misused .otherKind, depot)
  | .moveInto name source =>
      match depot.holders.get? source with
      | none => (.unknownName, depot)
      | some holder =>
          if name = source then (.done, depot) else (.done, depot.move name source holder)
  | .moveAssign name source =>
      match depot.holders.get? name, depot.holders.get? source with
      | some _, some holder =>
          if name = source then (.done, depot) else (.done, depot.move name source holder)
      | _, _ => (.unknownName, depot)
  | .drop name => (.done, depot.drop name)

def run (depot : Depot) (actions : List Action) : Depot :=
  actions.foldl (fun current action => (current.step action).2) depot

def holding (depot : Depot) (name : String) : Option Nat :=
  (depot.holders.get? name).bind Holder.block

def owners (depot : Depot) (block : Nat) : Nat :=
  depot.holders.total (fun holder => holder.shares block)

def course (depot : Depot) (block : Nat) : List Event :=
  depot.log.filter (fun event => event.block = block)

def Has (depot : Depot) (hand : Option Holder) (holder : Holder) : Prop :=
  hand = some holder ∨ ∃ name, depot.holders.get? name = some holder

inductive Recorded (depot : Depot) (block : Nat) : Prop
  | unmade (later : depot.blocks.next ≤ block) (course : depot.course block = [])
  | live {held : Block} (found : depot.blocks.get? block = some held)
      (course : depot.course block = [.initialised block held.kind])
  | gone {kind : MessageKind} (early : block < depot.blocks.next) (absent : depot.blocks.get? block = none)
      (course : depot.course block = [.initialised block kind, .finalized block kind])

/-- A block in use has one owner, of its own kind, and no other block has any. -/
structure SoundWith (depot : Depot) (hand : Option Holder) : Prop where
  owned : depot.blocks.Owned (fun _ => 1)
    (fun block => depot.owners block + hand.elim 0 (fun holder => holder.shares block))
  kinds : ∀ holder, depot.Has hand holder → ∀ block held, holder.block = some block →
    depot.blocks.get? block = some held → held.kind = holder.kind
  recorded : ∀ block, depot.Recorded block

variable {depot : Depot} {hand : Option Holder} {holder : Holder} {name : String} {block : Nat}

theorem soundWith_empty : empty.SoundWith none := by
  refine ⟨Arena.owned_empty _ (fun _ => rfl), ?_, fun block => .unmade (Nat.zero_le block) rfl⟩
  rintro holder (inHand | ⟨name, found⟩)
  · cases inHand
  · cases found

theorem shares_of_block (own : holder.block = some block) : holder.shares block = 1 := by
  unfold Holder.shares
  rw [own, Option.elim_some, List.count_singleton_self]

theorem SoundWith.readable (sound : depot.SoundWith hand) (has : depot.Has hand holder)
    (own : holder.block = some block) :
    ∃ held, depot.blocks.get? block = some held ∧ held.kind = holder.kind := by
  have shares := shares_of_block own
  have counted : 0 < depot.owners block + hand.elim 0 (fun holder => holder.shares block) := by
    rcases has with rfl | ⟨name, found⟩
    · rw [Option.elim_some]
      omega
    · have listed := depot.holders.le_total found (fun holder => holder.shares block)
      unfold owners
      omega
  obtain ⟨held, found⟩ := (sound.owned.held_iff block).1 counted
  exact ⟨held, found, sound.kinds holder has block held own found⟩

theorem SoundWith.apart {other : Holder} (sound : depot.SoundWith (some holder)) (own : holder.block = some block)
    (found : depot.holders.get? name = some other) : other.block ≠ some block := by
  intro theirs
  have counted := sound.owned.counted block
  have listed := depot.holders.le_total found (fun holder => holder.shares block)
  obtain ⟨held, there, _⟩ := sound.readable (.inl rfl) own
  rw [shares_of_block theirs] at listed
  rw [Arena.ownersOf, there, Option.elim_some, Option.elim_some, shares_of_block own] at counted
  unfold owners at counted
  omega

theorem holding_eq_some_iff (depot : Depot) (name : String) (block : Nat) :
    depot.holding name = some block ↔ ∃ holder, depot.holders.get? name = some holder ∧ holder.block = some block :=
  Option.bind_eq_some_iff

theorem SoundWith.course_of_found {held : Block} (sound : depot.SoundWith hand)
    (found : depot.blocks.get? block = some held) : depot.course block = [.initialised block held.kind] := by
  cases sound.recorded block with
  | unmade beyond => exact absurd (depot.blocks.lt_next_of_get? found) (Nat.not_lt_of_le beyond)
  | live there course =>
      cases found.symm.trans there
      exact course
  | gone early absent => cases absent.symm.trans found

theorem Recorded.congr {later : Depot} (recorded : depot.Recorded block) (next : later.blocks.next = depot.blocks.next)
    (kind : (later.blocks.get? block).map Block.kind = (depot.blocks.get? block).map Block.kind)
    (log : later.course block = depot.course block) : later.Recorded block := by
  cases recorded with
  | unmade beyond course => exact .unmade (next ▸ beyond) (log.trans course)
  | @live held found course =>
      rw [found, Option.map_some, Option.map_eq_some_iff] at kind
      obtain ⟨now, there, same⟩ := kind
      exact .live there (log.trans (same ▸ course))
  | gone early absent course =>
      rw [absent, Option.map_none, Option.map_eq_none_iff] at kind
      exact .gone (next ▸ early) kind (log.trans course)

/-- Holders pass between names and hands, and the blocks stay as they are. -/
theorem SoundWith.shift {holders : Table String Holder} {next : Option Holder} (sound : depot.SoundWith hand)
    (same : ∀ block, depot.owners block + hand.elim 0 (fun holder => holder.shares block) =
      holders.total (fun holder => holder.shares block) + next.elim 0 (fun holder => holder.shares block))
    (has : ∀ holder, ({ depot with holders } : Depot).Has next holder → holder.block = none ∨ depot.Has hand holder) :
    ({ depot with holders } : Depot).SoundWith next := by
  refine ⟨sound.owned.congr same, ?_, fun block => (sound.recorded block).congr rfl rfl rfl⟩
  intro holder there block held own found
  rcases has holder there with bare | before
  · cases bare.symm.trans own
  · exact sound.kinds holder before block held own found

theorem course_append_self (depot : Depot) (event : Event) :
    (depot.log ++ [event]).filter (fun other => other.block = event.block) = depot.course event.block ++ [event] := by
  unfold course
  rw [List.filter_append, List.filter_cons_of_pos (by simp), List.filter_nil]

theorem course_append_other (depot : Depot) (event : Event) (other : event.block ≠ block) :
    (depot.log ++ [event]).filter (fun event => event.block = block) = depot.course block := by
  unfold course
  rw [List.filter_append, List.filter_cons_of_neg (by simpa using other), List.filter_nil, List.append_nil]

theorem SoundWith.initialise (sound : depot.SoundWith none) (kind : MessageKind) :
    (depot.initialise kind).2.SoundWith (some (depot.initialise kind).1) := by
  have inserted := depot.blocks.get?_insert { kind, layout := kind.fresh }
  refine ⟨sound.owned.insert _ rfl, ?_, fun block => ?_⟩
  · intro holder has block held own found
    have there := (inserted block).symm.trans found
    rcases has with inHand | ⟨name, named⟩
    · cases Option.some.inj inHand
      cases own
      rw [if_pos rfl] at there
      cases there
      rfl
    · obtain ⟨old, before, same⟩ := sound.readable (.inr ⟨name, named⟩) own
      have early := depot.blocks.lt_next_of_get? before
      rw [if_neg (Nat.ne_of_lt early)] at there
      cases before.symm.trans there
      exact same
  · by_cases new : block = depot.blocks.next
    · -- Numbers are given out once, so that nothing was done with the new block before.
      rw [new]
      refine .live ((inserted _).trans (if_pos rfl)) ?_
      have course := depot.course_append_self (.initialised depot.blocks.next kind)
      cases sound.recorded depot.blocks.next with
      | unmade beyond bare =>
          rw [Event.block, bare] at course
          exact course
      | live found => cases depot.blocks.get?_next.symm.trans found
      | gone early => exact absurd early (Nat.lt_irrefl _)
    · have course : (depot.initialise kind).2.course block = depot.course block :=
        depot.course_append_other (.initialised depot.blocks.next kind) (Ne.symm new)
      cases sound.recorded block with
      | unmade beyond bare =>
          exact .unmade (Nat.lt_of_le_of_ne beyond (Ne.symm new)) (course.trans bare)
      | live found made => exact .live (((inserted block).trans (if_neg new)).trans found) (course.trans made)
      | gone early absent ended =>
          exact .gone (Nat.lt_succ_of_lt early) (((inserted block).trans (if_neg new)).trans absent)
            (course.trans ended)

/-- The block that is given back was in use, so that what is finalized was not finalized before. -/
theorem SoundWith.finalize (sound : depot.SoundWith (some holder)) : (depot.finalize holder).SoundWith none := by
  unfold Depot.finalize
  cases own : holder.block with
  | none =>
      refine sound.shift (fun block => ?_) (fun other has => .inr ?_)
      · rw [Option.elim_some, Holder.shares, own]
        rfl
      · rcases has with inHand | named
        · cases inHand
        · exact .inr named
  | some block =>
      have erased := depot.blocks.get?_erase block
      obtain ⟨held, found, kind⟩ := sound.readable (.inl rfl) own
      have given : ∀ other, depot.owners other + holder.shares other =
          depot.owners other + [block].count other := by
        intro other
        unfold Holder.shares
        rw [own, Option.elim_some]
      -- A block counts one owner, so that the holder in hand is its last.
      refine ⟨(sound.owned.erase given found (Nat.lt_irrefl 1)).congr (fun _ => rfl), ?_, fun other => ?_⟩
      · intro other has index old theirs there
        rw [erased] at there
        by_cases same : index = block
        · rw [if_pos same] at there
          cases there
        · rw [if_neg same] at there
          rcases has with inHand | named
          · cases inHand
          · exact sound.kinds other (.inr named) index old theirs there
      · by_cases same : other = block
        · subst other
          have ended := depot.course_append_self (.finalized block holder.kind)
          rw [Event.block, sound.course_of_found found, kind] at ended
          exact .gone (depot.blocks.lt_next_of_get? found) ((erased block).trans (if_pos rfl)) ended
        · refine (sound.recorded other).congr rfl ?_
            (depot.course_append_other (.finalized block holder.kind) (Ne.symm same))
          exact congrArg (Option.map Block.kind) ((erased other).trans (if_neg same))

theorem SoundWith.set (sound : depot.SoundWith (some holder)) (name : String) :
    ({ depot with holders := depot.holders.set name holder } : Depot).SoundWith (depot.holders.get? name) := by
  refine sound.shift (fun block => ?_) ?_
  · exact (depot.holders.total_set name holder (fun holder => holder.shares block)).symm
  · rintro other (found | ⟨place, found⟩)
    · exact .inr (.inr ⟨name, found⟩)
    · rw [Table.get?_set] at found
      by_cases same : place = name
      · rw [if_pos same] at found
        exact .inr (.inl found)
      · rw [if_neg same] at found
        exact .inr (.inr ⟨place, found⟩)

theorem SoundWith.place (sound : depot.SoundWith (some holder)) (name : String) :
    (depot.place name holder).SoundWith none := by
  have placed := sound.set name
  unfold Depot.place
  cases found : depot.holders.get? name with
  | none =>
      rw [found] at placed
      exact placed
  | some previous =>
      rw [found] at placed
      exact placed.finalize

theorem SoundWith.take (sound : depot.SoundWith none) (found : depot.holders.get? name = some holder) :
    ({ depot with holders := depot.holders.erase name } : Depot).SoundWith (some holder) := by
  refine sound.shift (fun block => ?_) ?_
  · have erased := depot.holders.total_erase name (fun holder => holder.shares block)
    rw [found, Option.elim_some] at erased
    exact erased.symm
  · rintro other (⟨⟨⟩⟩ | ⟨place, there⟩)
    · exact .inr (.inr ⟨name, found⟩)
    · exact .inr (.inr ⟨place, Table.get?_of_erase there⟩)

/-- No two names have the same block. -/
theorem SoundWith.sole {other : String} {theirs : Holder} (sound : depot.SoundWith none)
    (found : depot.holders.get? name = some holder) (own : holder.block = some block)
    (there : depot.holders.get? other = some theirs) (same : theirs.block = some block) : other = name := by
  by_contra different
  exact (sound.take found).apart own (((depot.holders.get?_erase name other).trans (if_neg different)).trans there) same

theorem SoundWith.drop (sound : depot.SoundWith none) (name : String) : (depot.drop name).SoundWith none := by
  unfold Depot.drop
  cases found : depot.holders.get? name with
  | none => exact sound
  | some holder => exact (sound.take found).finalize

theorem SoundWith.give (sound : depot.SoundWith none) {source : String} (found : depot.holders.get? source = some holder) :
    ({ depot with holders := depot.holders.set source holder.emptied } : Depot).SoundWith (some holder) := by
  refine sound.shift (fun block => ?_) ?_
  · have moved := depot.holders.total_set source holder.emptied (fun holder => holder.shares block)
    rw [found, Option.elim_some] at moved
    exact moved.symm
  · rintro other (⟨⟨⟩⟩ | ⟨place, there⟩)
    · exact .inr (.inr ⟨source, found⟩)
    · rw [Table.get?_set] at there
      by_cases same : place = source
      · rw [if_pos same] at there
        cases there
        exact .inl rfl
      · rw [if_neg same] at there
        exact .inr (.inr ⟨place, there⟩)

theorem SoundWith.move (sound : depot.SoundWith none) {source : String}
    (found : depot.holders.get? source = some holder) (name : String) :
    (depot.move name source holder).SoundWith none :=
  (sound.give found).place name

theorem SoundWith.write (sound : depot.SoundWith none) (holder : Holder) (payload : Payload) :
    (depot.write holder payload).SoundWith none := by
  unfold Depot.write
  cases holder.block with
  | none => exact sound
  | some block =>
      have modified := depot.blocks.get?_modify block
      have kind : ∀ other, ((depot.blocks.modify block
          (fun held => { held with layout := held.layout.fill payload })).get? other).map Block.kind =
            (depot.blocks.get? other).map Block.kind := by
        intro other
        rw [modified]
        by_cases same : other = block
        · rw [if_pos same, same]
          cases depot.blocks.get? block <;> rfl
        · rw [if_neg same]
      refine ⟨(sound.owned.modify block _ (fun _ => rfl)).congr (fun _ => rfl), ?_,
        fun other => (sound.recorded other).congr rfl (kind other) rfl⟩
      intro other has index held own found
      have before := kind index
      rw [found, Option.map_some, eq_comm, Option.map_eq_some_iff] at before
      obtain ⟨old, there, same⟩ := before
      exact same.symm.trans (sound.kinds other has index old own there)

inductive Steps (depot : Depot) : Action → Answer → Depot → Prop
  | refused {action : Action} {answer : Answer} (undone : answer ≠ .done) : depot.Steps action answer depot
  | made (name : String) (kind : MessageKind) :
      depot.Steps (.make name (some kind)) .done ((depot.initialise kind).2.place name (depot.initialise kind).1)
  | written {name : String} {holder : Holder} (found : depot.holders.get? name = some holder) (payload : Payload) :
      depot.Steps (.fill name payload) .done (depot.write holder payload)
  | stayed {action : Action} (name : String) (route : action.route = some (name, name)) : depot.Steps action .done depot
  | moved {action : Action} {name source : String} {holder : Holder} (route : action.route = some (name, source))
      (apart : name ≠ source) (found : depot.holders.get? source = some holder) :
      depot.Steps action .done (depot.move name source holder)
  | dropped (name : String) : depot.Steps (.drop name) .done (depot.drop name)

theorem steps_step (depot : Depot) (action : Action) : depot.Steps action (depot.step action).1 (depot.step action).2 := by
  unfold Depot.step
  cases action with
  | make name kind =>
      cases kind with
      | none => exact .refused (fun done => nomatch done)
      | some kind => exact .made name kind
  | fill name payload =>
      dsimp only
      cases found : depot.holders.get? name with
      | none => exact .refused (fun done => nomatch done)
      | some holder => exact .written found payload
  | view name kind =>
      dsimp only
      cases depot.holders.get? name with
      | none => exact .refused (fun done => nomatch done)
      | some holder =>
          dsimp only
          split <;> exact .refused (fun done => nomatch done)
  | moveInto name source =>
      dsimp only
      cases found : depot.holders.get? source with
      | none => exact .refused (fun done => nomatch done)
      | some holder =>
          dsimp only
          by_cases same : name = source
          · rw [if_pos same]
            exact .stayed name (same ▸ rfl)
          · rw [if_neg same]
            exact .moved rfl same found
  | moveAssign name source =>
      dsimp only
      cases depot.holders.get? name with
      | none => exact .refused (fun done => nomatch done)
      | some previous =>
          cases found : depot.holders.get? source with
          | none => exact .refused (fun done => nomatch done)
          | some holder =>
              dsimp only
              by_cases same : name = source
              · rw [if_pos same]
                exact .stayed name (same ▸ rfl)
              · rw [if_neg same]
                exact .moved rfl same found
  | drop name => exact .dropped name

theorem Steps.moved_eq {after : Depot} {action : Action} {source : String} (steps : depot.Steps action .done after)
    (route : action.route = some (name, source)) (apart : name ≠ source) :
    ∃ holder, depot.holders.get? source = some holder ∧ after = depot.move name source holder := by
  cases steps with
  | refused undone => exact absurd rfl undone
  | made | written | dropped => cases route
  | stayed place same =>
      cases same.symm.trans route
      exact absurd rfl apart
  | moved same _ found =>
      cases same.symm.trans route
      exact ⟨_, found, rfl⟩

/-- No operation loses a block, or gives it a second owner. -/
theorem SoundWith.step (sound : depot.SoundWith none) (action : Action) : (depot.step action).2.SoundWith none := by
  have steps := depot.steps_step action
  generalize (depot.step action).1 = answer, (depot.step action).2 = after at steps ⊢
  cases steps with
  | refused undone => exact sound
  | made name kind => exact (sound.initialise kind).place name
  | @written name holder found payload => exact sound.write holder payload
  | stayed name route => exact sound
  | @moved action name source holder route apart found => exact sound.move found name
  | dropped name => exact sound.drop name

theorem SoundWith.run (sound : depot.SoundWith none) (actions : List Action) : (depot.run actions).SoundWith none := by
  induction actions generalizing depot with
  | nil => exact sound
  | cons action rest ih => exact ih (sound.step action)

end Depot

end PubSub.MessageBuffer
