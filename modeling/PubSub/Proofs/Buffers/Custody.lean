import PubSub.Proofs.Buffers.Blocks

/-!
Who has what was initialised.  The operations on buffers do to the blocks what is told of a depot, so that each block has one
owner until it is finalized; a move passes it on as it is.
-/

namespace PubSub.MessageBuffer

namespace Depot

variable {depot : Depot} {bench : Bench} {holder : Holder} {name : String} {block : Nat}

structure Sees (depot : Depot) (bench : Bench) : Prop where
  buffers : ∀ name, bench.buffers.get? name = (depot.holders.get? name).map depot.buffer
  inits : ∀ kind, (bench.ledger.calls kind).init = depot.log.countP (Event.initialises kind)
  finis : ∀ kind, (bench.ledger.calls kind).fini = depot.log.countP (Event.finalizes kind)

theorem sees_empty : empty.Sees .empty :=
  ⟨fun _ => rfl, fun _ => rfl, fun _ => rfl⟩

theorem buffer_congr {later : Depot}
    (same : ∀ block, holder.block = some block → later.blocks.get? block = depot.blocks.get? block) :
    later.buffer holder = depot.buffer holder := by
  unfold Depot.buffer
  cases own : holder.block with
  | none => rfl
  | some block => rw [Option.bind_some, Option.bind_some, same block own]

theorem buffer_of_block {held : Block} (own : holder.block = some block) (found : depot.blocks.get? block = some held) :
    depot.buffer holder = { kind := holder.kind, storage := some held.layout } := by
  unfold Depot.buffer
  rw [own, Option.bind_some, found, Option.map_some]

theorem Sees.set (sees : depot.Sees bench) (name : String) (holder : Holder) :
    ({ depot with holders := depot.holders.set name holder } : Depot).Sees
      { bench with buffers := bench.buffers.set name (depot.buffer holder) } := by
  refine ⟨fun other => ?_, sees.inits, sees.finis⟩
  rw [Table.get?_set, Table.get?_set]
  by_cases same : other = name
  · rw [if_pos same, if_pos same]
    rfl
  · rw [if_neg same, if_neg same]
    exact sees.buffers other

theorem Sees.erase (sees : depot.Sees bench) (name : String) :
    ({ depot with holders := depot.holders.erase name } : Depot).Sees
      { bench with buffers := bench.buffers.erase name } := by
  refine ⟨fun other => ?_, sees.inits, sees.finis⟩
  rw [Table.get?_erase, Table.get?_erase]
  by_cases same : other = name
  · rw [if_pos same, if_pos same]
    rfl
  · rw [if_neg same, if_neg same]
    exact sees.buffers other

theorem Sees.note (sees : depot.Sees bench) (event : Event) {ledger : Ledger}
    (inits : ∀ kind, (ledger.calls kind).init = (bench.ledger.calls kind).init + if event.initialises kind then 1 else 0)
    (finis : ∀ kind, (ledger.calls kind).fini = (bench.ledger.calls kind).fini + if event.finalizes kind then 1 else 0)
    {blocks : Arena Block} (same : ∀ name holder, depot.holders.get? name = some holder → ∀ block,
      holder.block = some block → blocks.get? block = depot.blocks.get? block) :
    ({ depot with blocks, log := depot.log ++ [event] } : Depot).Sees { bench with ledger } := by
  refine ⟨fun name => (sees.buffers name).trans ?_, fun kind => (inits kind).trans ?_, fun kind => (finis kind).trans ?_⟩
  · cases found : depot.holders.get? name with
    | none => rfl
    | some holder =>
        rw [Option.map_some, Option.map_some]
        exact congrArg some (buffer_congr (same name holder found)).symm
  · rw [sees.inits, List.countP_append, List.countP_singleton]
  · rw [sees.finis, List.countP_append, List.countP_singleton]

theorem Sees.initialise (sees : depot.Sees bench) (sound : depot.SoundWith none) (kind : MessageKind) :
    (depot.initialise kind).2.Sees { bench with ledger := (make bench.ledger kind).2 } ∧
    (depot.initialise kind).2.buffer (depot.initialise kind).1 = (make bench.ledger kind).1 := by
  have inserted := depot.blocks.get?_insert { kind, layout := kind.fresh }
  constructor
  · refine sees.note (.initialised depot.blocks.next kind) (fun other => ?_) (fun other => ?_) ?_
    · exact (tally_make bench.ledger kind (some other)).1.trans (congrArg _ (weight_some other kind _))
    · exact (tally_make bench.ledger kind (some other)).2
    · intro name holder found block own
      obtain ⟨held, there, _⟩ := sound.readable (.inr ⟨name, found⟩) own
      exact (inserted block).trans (if_neg (Nat.ne_of_lt (depot.blocks.lt_next_of_get? there)))
  · have found : (depot.initialise kind).2.blocks.get? depot.blocks.next = some { kind, layout := kind.fresh } :=
      (inserted _).trans (if_pos rfl)
    exact buffer_of_block rfl found

/-- No other buffer has the block that is given back. -/
theorem Sees.finalize (sees : depot.Sees bench) (sound : depot.SoundWith (some holder)) :
    (depot.finalize holder).Sees { bench with ledger := (depot.buffer holder).release bench.ledger } := by
  unfold Depot.finalize
  cases own : holder.block with
  | none =>
      unfold Depot.buffer
      rw [own]
      exact sees
  | some block =>
      obtain ⟨held, found, kind⟩ := sound.readable (.inl rfl) own
      rw [buffer_of_block own found]
      refine sees.note (.finalized block holder.kind) (fun other => ?_) (fun other => ?_) ?_
      · exact (tally_release bench.ledger _ (some other)).1
      · exact (tally_release bench.ledger _ (some other)).2.trans (congrArg _ (weight_some other holder.kind _))
      · intro name other there index theirs
        refine (depot.blocks.get?_erase block index).trans (if_neg ?_)
        rintro rfl
        exact sound.apart own there theirs

theorem Sees.place (sees : depot.Sees bench) (sound : depot.SoundWith (some holder)) (name : String) :
    (depot.place name holder).Sees (bench.place name (depot.buffer holder)) := by
  have placed := sees.set name holder
  have displaced := sound.set name
  unfold Depot.place Bench.place
  rw [sees.buffers name]
  cases found : depot.holders.get? name with
  | none => exact placed
  | some previous =>
      rw [found] at displaced
      exact placed.finalize displaced

theorem Sees.drop (sees : depot.Sees bench) (sound : depot.SoundWith none) (name : String) :
    (depot.drop name).Sees (bench.drop name) := by
  unfold Depot.drop Bench.drop
  rw [sees.buffers name]
  cases found : depot.holders.get? name with
  | none => exact sees
  | some holder => exact (sees.erase name).finalize (sound.take found)

theorem Sees.move (sees : depot.Sees bench) (sound : depot.SoundWith none) {source : String}
    (found : depot.holders.get? source = some holder) (name : String) :
    (depot.move name source holder).Sees (bench.move name source (depot.buffer holder)) :=
  (sees.set source holder.emptied).place (sound.give found) name

/-- Only the buffer that has a block sees what is written to it. -/
theorem Sees.write (sees : depot.Sees bench) (sound : depot.SoundWith none)
    (found : depot.holders.get? name = some holder) (payload : Payload) :
    (depot.write holder payload).Sees
      { bench with buffers := bench.buffers.set name ((depot.buffer holder).fill payload) } := by
  unfold Depot.write
  cases own : holder.block with
  | none =>
      refine ⟨fun other => ?_, sees.inits, sees.finis⟩
      rw [Table.get?_set]
      by_cases same : other = name
      · rw [if_pos same, same, found, Option.map_some]
        unfold fill Depot.buffer
        rw [own]
        rfl
      · rw [if_neg same]
        exact sees.buffers other
  | some block =>
      have modified := depot.blocks.get?_modify block
      refine ⟨fun other => ?_, sees.inits, sees.finis⟩
      rw [Table.get?_set]
      by_cases same : other = name
      · rw [if_pos same, same, found, Option.map_some]
        unfold fill Depot.buffer
        rw [own, Option.bind_some, Option.bind_some, modified, if_pos rfl, Option.map_map, Option.map_map]
        rfl
      · rw [if_neg same, sees.buffers other]
        cases there : depot.holders.get? other with
        | none => rfl
        | some theirs =>
            refine congrArg some (buffer_congr (fun index owned => (modified index _).trans (if_neg ?_))).symm
            rintro rfl
            exact same (sound.sole found own there owned)

/-- Operations on a bench and its depot have the same answers, and the bench stays that of the depot. -/
theorem Sees.step (sees : depot.Sees bench) (sound : depot.SoundWith none) (action : Action) :
    (bench.step action).1 = (depot.step action).1 ∧ (depot.step action).2.Sees (bench.step action).2 := by
  cases action with
  | make name kind =>
      cases kind with
      | none => exact ⟨rfl, sees⟩
      | some kind =>
          obtain ⟨filled, same⟩ := sees.initialise sound kind
          have placed := filled.place (sound.initialise kind) name
          rw [same] at placed
          exact ⟨rfl, placed⟩
  | fill name payload =>
      unfold Bench.step Depot.step
      dsimp only
      rw [sees.buffers name]
      cases found : depot.holders.get? name with
      | none => exact ⟨rfl, sees⟩
      | some holder => exact ⟨rfl, sees.write sound found payload⟩
  | view name kind =>
      unfold Bench.step Depot.step MessageBuffer.view
      dsimp only
      rw [sees.buffers name]
      cases depot.holders.get? name with
      | none => exact ⟨rfl, sees⟩
      | some holder =>
          rw [Option.map_some]
          dsimp only [Depot.buffer]
          by_cases same : holder.kind = kind
          · rw [if_pos same, if_pos same]
            exact ⟨rfl, sees⟩
          · rw [if_neg same, if_neg same]
            exact ⟨rfl, sees⟩
  | moveInto name source =>
      unfold Bench.step Depot.step
      dsimp only
      rw [sees.buffers source]
      cases found : depot.holders.get? source with
      | none => exact ⟨rfl, sees⟩
      | some holder =>
          rw [Option.map_some]
          dsimp only
          by_cases same : name = source
          · rw [if_pos same, if_pos same]
            exact ⟨rfl, sees⟩
          · rw [if_neg same, if_neg same]
            exact ⟨rfl, sees.move sound found name⟩
  | moveAssign name source =>
      unfold Bench.step Depot.step
      dsimp only
      rw [sees.buffers name, sees.buffers source]
      cases depot.holders.get? name with
      | none => exact ⟨rfl, sees⟩
      | some previous =>
          cases found : depot.holders.get? source with
          | none => exact ⟨rfl, sees⟩
          | some holder =>
              rw [Option.map_some, Option.map_some]
              dsimp only
              by_cases same : name = source
              · rw [if_pos same, if_pos same]
                exact ⟨rfl, sees⟩
              · rw [if_neg same, if_neg same]
                exact ⟨rfl, sees.move sound found name⟩
  | drop name => exact ⟨rfl, sees.drop sound name⟩

theorem Sees.run (sees : depot.Sees bench) (sound : depot.SoundWith none) (actions : List Action) :
    (depot.run actions).Sees (bench.run actions) := by
  induction actions generalizing depot bench with
  | nil => exact sees
  | cons action rest ih => exact ih (sees.step sound action).2 (sound.step action)

/-- A block was not given out yet, or one buffer of its kind has it, or it was finalized through that kind. -/
inductive Fate (depot : Depot) (block : Nat) : Prop
  | unmade (course : depot.course block = []) (unheld : ∀ name, depot.holding name ≠ some block)
  | owned {held : Block} {holder : Holder} {name : String} (found : depot.blocks.get? block = some held)
      (course : depot.course block = [.initialised block held.kind]) (named : depot.holders.get? name = some holder)
      (own : holder.block = some block) (kind : holder.kind = held.kind)
      (sole : ∀ other, depot.holding other = some block → other = name)
  | ended {kind : MessageKind} (absent : depot.blocks.get? block = none)
      (course : depot.course block = [.initialised block kind, .finalized block kind])
      (unheld : ∀ name, depot.holding name ≠ some block)

theorem SoundWith.found (sound : depot.SoundWith none) (holds : depot.holding name = some block) :
    ∃ held, depot.blocks.get? block = some held := by
  obtain ⟨holder, named, own⟩ := (depot.holding_eq_some_iff name block).1 holds
  obtain ⟨held, there, _⟩ := sound.readable (.inr ⟨name, named⟩) own
  exact ⟨held, there⟩

theorem block_of_shares (positive : 0 < holder.shares block) : holder.block = some block := by
  unfold Holder.shares at positive
  cases own : holder.block with
  | none => simp [own] at positive
  | some index =>
      rw [own, Option.elim_some, List.count_pos_iff, List.mem_singleton] at positive
      rw [positive]

theorem SoundWith.fate (sound : depot.SoundWith none) (block : Nat) : depot.Fate block := by
  cases sound.recorded block with
  | unmade beyond course =>
      refine .unmade course (fun name holds => ?_)
      obtain ⟨held, there⟩ := sound.found holds
      exact Nat.not_lt_of_le beyond (depot.blocks.lt_next_of_get? there)
  | @live held there course =>
      have counted := (sound.owned.held_iff block).2 ⟨held, there⟩
      rw [Option.elim_none, Nat.add_zero] at counted
      obtain ⟨name, holder, named, positive⟩ := depot.holders.exists_of_total_pos _ counted
      have own := block_of_shares positive
      refine .owned there course named own (sound.kinds holder (.inr ⟨name, named⟩) block held own there).symm ?_
      intro other holds
      obtain ⟨theirs, found, same⟩ := (depot.holding_eq_some_iff other block).1 holds
      exact sound.sole named own found same
  | gone early absent course =>
      refine .ended absent course (fun name holds => ?_)
      obtain ⟨held, there⟩ := sound.found holds
      cases absent.symm.trans there

theorem finalize_holders (depot : Depot) (holder : Holder) : (depot.finalize holder).holders = depot.holders := by
  unfold Depot.finalize
  cases holder.block <;> rfl

theorem place_holders (depot : Depot) (name : String) (holder : Holder) :
    (depot.place name holder).holders = depot.holders.set name holder := by
  unfold Depot.place
  cases depot.holders.get? name with
  | none => rfl
  | some previous => exact finalize_holders _ previous

theorem holding_move (depot : Depot) (source : String) (holder : Holder) (name other : String) :
    (depot.move name source holder).holding other =
      if other = name then holder.block else if other = source then none else depot.holding other := by
  unfold holding Depot.move
  rw [place_holders, Table.get?_set, Table.get?_set]
  split
  · rfl
  · split <;> rfl

def Keeps (depot later : Depot) (block : Nat) : Prop :=
  ∀ held, depot.blocks.get? block = some held → later.blocks.get? block = some held ∨ later.blocks.get? block = none

theorem keeps_finalize (depot : Depot) (holder : Holder) (block : Nat) : depot.Keeps (depot.finalize holder) block := by
  intro held found
  unfold Depot.finalize
  cases holder.block with
  | none => exact .inl found
  | some own =>
      have erased := depot.blocks.get?_erase own block
      by_cases same : block = own
      · exact .inr (erased.trans (if_pos same))
      · exact .inl ((erased.trans (if_neg same)).trans found)

theorem keeps_place (depot : Depot) (name : String) (holder : Holder) (block : Nat) :
    depot.Keeps (depot.place name holder) block := by
  unfold Depot.place
  cases depot.holders.get? name with
  | none => exact fun held found => .inl found
  | some previous => exact keeps_finalize { depot with holders := depot.holders.set name holder } previous block

theorem keeps_drop (depot : Depot) (name : String) (block : Nat) : depot.Keeps (depot.drop name) block := by
  unfold Depot.drop
  cases depot.holders.get? name with
  | none => exact fun held found => .inl found
  | some holder => exact keeps_finalize { depot with holders := depot.holders.erase name } holder block

theorem keeps_make (depot : Depot) (name : String) (kind : MessageKind) (block : Nat) :
    depot.Keeps ((depot.initialise kind).2.place name (depot.initialise kind).1) block := by
  intro held found
  have inserted := depot.blocks.get?_insert { kind, layout := kind.fresh } block
  rw [if_neg (Nat.ne_of_lt (depot.blocks.lt_next_of_get? found)), found] at inserted
  exact keeps_place _ name _ block held inserted

theorem keeps_write (depot : Depot) (holder : Holder) (payload : Payload) (other : holder.block ≠ some block) :
    depot.Keeps (depot.write holder payload) block := by
  intro held found
  unfold Depot.write
  cases own : holder.block with
  | none => exact .inl found
  | some index =>
      refine .inl (((depot.blocks.get?_modify index block _).trans (if_neg ?_)).trans found)
      rintro rfl
      exact other own

theorem keeps_move (depot : Depot) (name source : String) (holder : Holder) (block : Nat) :
    depot.Keeps (depot.move name source holder) block :=
  keeps_place { depot with holders := depot.holders.set source holder.emptied } name holder block

theorem keeps_step (depot : Depot) (action : Action)
    (other : ∀ name payload, action = .fill name payload → depot.holding name ≠ some block) :
    depot.Keeps (depot.step action).2 block := by
  have steps := depot.steps_step action
  generalize (depot.step action).1 = answer, (depot.step action).2 = after at steps ⊢
  cases steps with
  | refused undone => exact fun held found => .inl found
  | made name kind => exact keeps_make depot name kind block
  | @written name holder found payload =>
      refine keeps_write depot holder payload (fun own => other name payload rfl ?_)
      exact (depot.holding_eq_some_iff name block).2 ⟨holder, found, own⟩
  | stayed name route => exact fun held found => .inl found
  | @moved action name source holder route apart found => exact keeps_move depot name source holder block
  | dropped name => exact keeps_drop depot name block

end Depot

/-- How what was initialised is kept in a bench, seen as a depot, and what an operation then does to it. -/
structure Custody (bench : Bench) (depot : Depot) (action : Action) : Prop where
  sees : depot.Sees bench
  answers : (bench.step action).1 = (depot.step action).1
  untyped : ∀ name, action = .make name none → (bench.step action).1 = .misused .missingTypeSupport
  refused : (bench.step action).1 ≠ .done → (bench.step action).2 = bench
  stored : ∀ name buffer layout, bench.buffers.get? name = some buffer →
    (buffer.storage = some layout ↔ ∃ block, depot.holding name = some block ∧
      depot.blocks.get? block = some { kind := buffer.kind, layout })
  fate : ∀ block, depot.Fate block
  kept : ∀ block, (∀ name payload, action = .fill name payload → depot.holding name ≠ some block) →
    depot.Keeps (depot.step action).2 block
  moved : ∀ name source buffer, action.route = some (name, source) → name ≠ source →
    (bench.step action).1 = .done → bench.buffers.get? source = some buffer →
    ∀ other, (bench.step action).2.buffers.get? other =
      if other = name then some buffer
      else if other = source then some buffer.emptied else bench.buffers.get? other
  passed : ∀ name source, action.route = some (name, source) → name ≠ source →
    (bench.step action).1 = .done → ∀ other, (depot.step action).2.holding other =
      if other = name then depot.holding source else if other = source then none else depot.holding other
  stayed : ∀ name, action.route = some (name, name) → (bench.step action).2 = bench
  balanced : ∀ scope, bench.ledger.tally scope Calls.init =
    bench.ledger.tally scope Calls.fini + bench.filled scope

theorem Depot.SoundWith.stored {depot : Depot} {bench : Bench} (sound : depot.SoundWith none) (sees : depot.Sees bench)
    {name : String} {buffer : MessageBuffer} (found : bench.buffers.get? name = some buffer) (layout : Layout) :
    buffer.storage = some layout ↔ ∃ block, depot.holding name = some block ∧
      depot.blocks.get? block = some { kind := buffer.kind, layout } := by
  rw [sees.buffers name, Option.map_eq_some_iff] at found
  obtain ⟨holder, named, rfl⟩ := found
  unfold Depot.buffer
  rw [Option.bind_eq_some_iff]
  dsimp only
  constructor
  · rintro ⟨block, own, there⟩
    obtain ⟨held, present, kind⟩ := sound.readable (.inr ⟨name, named⟩) own
    rw [present, Option.map_some, Option.some.injEq] at there
    subst there
    refine ⟨block, (depot.holding_eq_some_iff name block).2 ⟨holder, named, own⟩, present.trans ?_⟩
    rw [← kind]
  · rintro ⟨block, holds, there⟩
    obtain ⟨theirs, same, own⟩ := (depot.holding_eq_some_iff name block).1 holds
    cases named.symm.trans same
    exact ⟨block, own, by rw [there, Option.map_some]⟩

/-- Each message that was initialised is in one buffer, unless it was finalized, once and through the kind of its making. -/
theorem owned_until_finalized (actions : List Action) (action : Action) :
    Custody (Bench.empty.run actions) (Depot.empty.run actions) action := by
  have sound := Depot.soundWith_empty.run actions
  have sees := Depot.sees_empty.run Depot.soundWith_empty actions
  have answers := (sees.step sound action).1
  have steps := (Bench.empty.run actions).steps_step action
  have below := (Depot.empty.run actions).steps_step action
  refine {
    sees := sees
    answers := answers
    untyped := ?_
    refused := steps.refused_eq
    stored := fun name buffer layout found => sound.stored sees found layout
    fate := sound.fate
    kept := fun block => Depot.keeps_step _ action
    moved := ?_
    passed := ?_
    stayed := fun name => steps.stayed_eq
    balanced := Bench.tally_run actions }
  · rintro name rfl
    rfl
  · intro name source buffer route apart done found other
    rw [done] at steps
    obtain ⟨taken, there, after⟩ := steps.moved_eq route apart
    cases found.symm.trans there
    rw [after, Bench.get?_move]
  · intro name source route apart done other
    rw [← answers, done] at below
    obtain ⟨holder, found, after⟩ := below.moved_eq route apart
    have passed : (Depot.empty.run actions).holding source = holder.block := by
      rw [Depot.holding, found, Option.bind_some]
    rw [after, Depot.holding_move, passed]

end PubSub.MessageBuffer
