import PubSub.Message.Buffer
import PubSub.Proofs.Total

/-!
What an operation on buffers can do, and what the calls of a ledger come to then.  The scope of a count is one kind of
message or all of them; within any scope, each message that was made and not released is in a buffer that is not empty.
-/

namespace PubSub

namespace MessageBuffer

/-- Where a move goes, and where it comes from. -/
def Action.route : Action → Option (String × String)
  | moveInto name source => some (name, source)
  | moveAssign name source => some (name, source)
  | _ => none

namespace Bench

def run (bench : Bench) (actions : List Action) : Bench :=
  actions.foldl (fun current action => (current.step action).2) bench

def move (bench : Bench) (name source : String) (buffer : MessageBuffer) : Bench :=
  { bench with buffers := bench.buffers.set source buffer.emptied }.place name buffer

theorem get?_move (bench : Bench) (name source : String) (buffer : MessageBuffer) (other : String) :
    (bench.move name source buffer).buffers.get? other =
      if other = name then some buffer
      else if other = source then some buffer.emptied else bench.buffers.get? other := by
  refine (Table.get?_set _ name other buffer).trans ?_
  rw [Table.get?_set]

inductive Steps (bench : Bench) : Action → Answer → Bench → Prop
  | refused {action : Action} {answer : Answer} (undone : answer ≠ .done) : bench.Steps action answer bench
  | made (name : String) (kind : MessageKind) :
      bench.Steps (.make name (some kind)) .done
        ({ bench with ledger := (make bench.ledger kind).2 }.place name (make bench.ledger kind).1)
  | filled {name : String} {buffer : MessageBuffer} (found : bench.buffers.get? name = some buffer) (payload : Payload) :
      bench.Steps (.fill name payload) .done { bench with buffers := bench.buffers.set name (buffer.fill payload) }
  | stayed {action : Action} (name : String) (route : action.route = some (name, name)) : bench.Steps action .done bench
  | moved {action : Action} {name source : String} {buffer : MessageBuffer} (route : action.route = some (name, source))
      (apart : name ≠ source) (found : bench.buffers.get? source = some buffer) :
      bench.Steps action .done (bench.move name source buffer)
  | dropped (name : String) : bench.Steps (.drop name) .done (bench.drop name)

theorem steps_step (bench : Bench) (action : Action) : bench.Steps action (bench.step action).1 (bench.step action).2 := by
  unfold Bench.step
  cases action with
  | make name kind =>
      cases kind with
      | none => exact .refused (fun done => nomatch done)
      | some kind => exact .made name kind
  | fill name payload =>
      dsimp only
      cases found : bench.buffers.get? name with
      | none => exact .refused (fun done => nomatch done)
      | some buffer => exact .filled found payload
  | view name kind =>
      dsimp only
      cases bench.buffers.get? name with
      | none => exact .refused (fun done => nomatch done)
      | some buffer =>
          dsimp only
          cases buffer.view kind with
          | ok storage => exact .refused (fun done => nomatch done)
          | error misuse => exact .refused (fun done => nomatch done)
  | moveInto name source =>
      dsimp only
      cases found : bench.buffers.get? source with
      | none => exact .refused (fun done => nomatch done)
      | some buffer =>
          dsimp only
          by_cases same : name = source
          · rw [if_pos same]
            exact .stayed name (same ▸ rfl)
          · rw [if_neg same]
            exact .moved rfl same found
  | moveAssign name source =>
      dsimp only
      cases bench.buffers.get? name with
      | none => exact .refused (fun done => nomatch done)
      | some previous =>
          cases found : bench.buffers.get? source with
          | none => exact .refused (fun done => nomatch done)
          | some buffer =>
              dsimp only
              by_cases same : name = source
              · rw [if_pos same]
                exact .stayed name (same ▸ rfl)
              · rw [if_neg same]
                exact .moved rfl same found
  | drop name => exact .dropped name

variable {bench after : Bench} {action : Action} {answer : Answer} {name source : String}

theorem Steps.refused_eq (steps : bench.Steps action answer after) (undone : answer ≠ .done) : after = bench := by
  cases steps with
  | refused => rfl
  | made | filled | stayed | moved | dropped => exact absurd rfl undone

theorem Steps.stayed_eq (steps : bench.Steps action answer after) (route : action.route = some (name, name)) :
    after = bench := by
  cases steps with
  | refused | stayed => rfl
  | made | filled | dropped => cases route
  | moved same apart =>
      cases same.symm.trans route
      exact absurd rfl apart

theorem Steps.moved_eq (steps : bench.Steps action .done after) (route : action.route = some (name, source))
    (apart : name ≠ source) :
    ∃ buffer, bench.buffers.get? source = some buffer ∧ after = bench.move name source buffer := by
  cases steps with
  | refused undone => exact absurd rfl undone
  | made | filled | dropped => cases route
  | stayed place same =>
      cases same.symm.trans route
      exact absurd rfl apart
  | moved same _ found =>
      cases same.symm.trans route
      exact ⟨_, found, rfl⟩

end Bench

end MessageBuffer

namespace Ledger

def tally (ledger : Ledger) (scope : Option MessageKind) (read : Calls → Nat) : Nat :=
  match scope with
  | none => ledger.kinds.total read
  | some kind => read (ledger.calls kind)

theorem tally_note (ledger : Ledger) (scope : Option MessageKind) (kind : MessageKind) {change : Calls → Calls}
    {read : Calls → Nat} {more : Nat} (bare : read .none = 0) (adds : ∀ calls, read (change calls) = read calls + more) :
    (ledger.note kind change).tally scope read =
      ledger.tally scope read + if scope.all (fun asked => asked = kind) then more else 0 := by
  cases scope with
  | none =>
      have moved := ledger.kinds.total_set kind (change (ledger.calls kind)) read
      have before : (ledger.kinds.get? kind).elim 0 read = read (ledger.calls kind) := by
        unfold calls
        cases ledger.kinds.get? kind with
        | none => exact bare.symm
        | some calls => rfl
      rw [before, adds] at moved
      rw [Option.all_none, if_pos rfl]
      unfold tally note
      dsimp only
      omega
  | some asked =>
      unfold tally
      dsimp only
      rw [calls_note]
      by_cases same : asked = kind
      · subst asked
        rw [if_pos rfl, if_pos (by simp), adds]
      · rw [if_neg same, if_neg (by simpa using same), Nat.add_zero]

end Ledger

namespace MessageBuffer

variable {bench : Bench} {buffer : MessageBuffer} {scope : Option MessageKind}

def weight (scope : Option MessageKind) (buffer : MessageBuffer) : Nat :=
  if buffer.storage.isSome ∧ scope.all (fun asked => asked = buffer.kind) then 1 else 0

theorem weight_some (kind through : MessageKind) (layout : Layout) :
    weight (some kind) { kind := through, storage := some layout } = if decide (through = kind) then 1 else 0 := by
  unfold weight
  simp only [Option.isSome_some, Option.all_some, true_and, eq_comm]

theorem weight_emptied (scope : Option MessageKind) (buffer : MessageBuffer) : buffer.emptied.weight scope = 0 :=
  if_neg (fun full => Bool.noConfusion full.1)

theorem weight_fill (scope : Option MessageKind) (buffer : MessageBuffer) (payload : Payload) :
    (buffer.fill payload).weight scope = buffer.weight scope := by
  unfold weight fill
  rw [Option.isSome_map]

theorem tally_make (ledger : Ledger) (kind : MessageKind) (scope : Option MessageKind) :
    (make ledger kind).2.tally scope Calls.init =
      ledger.tally scope Calls.init + (make ledger kind).1.weight scope ∧
    (make ledger kind).2.tally scope Calls.fini = ledger.tally scope Calls.fini := by
  have inits : (ledger.noteInit kind).tally scope Calls.init =
      ledger.tally scope Calls.init + if scope.all (fun asked => asked = kind) then 1 else 0 :=
    ledger.tally_note scope kind rfl (fun _ => rfl)
  have finis : (ledger.noteInit kind).tally scope Calls.fini =
      ledger.tally scope Calls.fini + if scope.all (fun asked => asked = kind) then 0 else 0 :=
    ledger.tally_note scope kind rfl (fun _ => rfl)
  unfold make weight
  rw [ite_self] at finis
  exact ⟨inits.trans (by simp only [Option.isSome_some, true_and]), finis⟩

theorem tally_release (ledger : Ledger) (buffer : MessageBuffer) (scope : Option MessageKind) :
    (buffer.release ledger).tally scope Calls.init = ledger.tally scope Calls.init ∧
    (buffer.release ledger).tally scope Calls.fini = ledger.tally scope Calls.fini + buffer.weight scope := by
  have inits : (ledger.noteFini buffer.kind).tally scope Calls.init =
      ledger.tally scope Calls.init + if scope.all (fun asked => asked = buffer.kind) then 0 else 0 :=
    ledger.tally_note scope buffer.kind rfl (fun _ => rfl)
  have finis : (ledger.noteFini buffer.kind).tally scope Calls.fini =
      ledger.tally scope Calls.fini + if scope.all (fun asked => asked = buffer.kind) then 1 else 0 :=
    ledger.tally_note scope buffer.kind rfl (fun _ => rfl)
  unfold release weight
  rw [ite_self] at inits
  by_cases full : buffer.storage.isSome = true
  · rw [if_pos full]
    exact ⟨inits, finis.trans (by simp only [full, true_and])⟩
  · rw [if_neg full, if_neg (fun both => full both.1)]
    exact ⟨rfl, rfl⟩

namespace Bench

def Balanced (bench : Bench) (scope : Option MessageKind) (hand : Nat) : Prop :=
  bench.ledger.tally scope Calls.init =
    bench.ledger.tally scope Calls.fini + (bench.buffers.total (weight scope) + hand)

theorem balanced_empty (scope : Option MessageKind) : empty.Balanced scope 0 := by
  cases scope <;> rfl

theorem Balanced.make (balanced : bench.Balanced scope 0) (kind : MessageKind) :
    { bench with ledger := (make bench.ledger kind).2 }.Balanced scope ((make bench.ledger kind).1.weight scope) := by
  obtain ⟨inits, finis⟩ := tally_make bench.ledger kind scope
  unfold Balanced at balanced ⊢
  dsimp only
  rw [inits, finis]
  omega

theorem Balanced.place (balanced : bench.Balanced scope (buffer.weight scope)) (name : String) :
    (bench.place name buffer).Balanced scope 0 := by
  have moved := bench.buffers.total_set name buffer (weight scope)
  unfold Balanced at balanced ⊢
  unfold Bench.place
  dsimp only
  cases found : bench.buffers.get? name with
  | none =>
      rw [found, Option.elim_none] at moved
      dsimp only
      omega
  | some previous =>
      obtain ⟨inits, finis⟩ := tally_release bench.ledger previous scope
      rw [found, Option.elim_some] at moved
      dsimp only
      omega

theorem Balanced.drop (balanced : bench.Balanced scope 0) (name : String) : (bench.drop name).Balanced scope 0 := by
  unfold Bench.drop
  cases found : bench.buffers.get? name with
  | none => exact balanced
  | some buffer =>
      have erased := bench.buffers.total_erase name (weight scope)
      obtain ⟨inits, finis⟩ := tally_release bench.ledger buffer scope
      rw [found, Option.elim_some] at erased
      unfold Balanced at balanced ⊢
      dsimp only
      omega

theorem Balanced.move {source : String} (balanced : bench.Balanced scope 0)
    (found : bench.buffers.get? source = some buffer) (name : String) :
    (bench.move name source buffer).Balanced scope 0 := by
  have moved := bench.buffers.total_set source buffer.emptied (weight scope)
  rw [found, Option.elim_some, weight_emptied] at moved
  refine Balanced.place ?_ name
  unfold Balanced at balanced ⊢
  dsimp only
  omega

theorem Balanced.fill (balanced : bench.Balanced scope 0) {name : String}
    (found : bench.buffers.get? name = some buffer) (payload : Payload) :
    { bench with buffers := bench.buffers.set name (buffer.fill payload) }.Balanced scope 0 := by
  have moved := bench.buffers.total_set name (buffer.fill payload) (weight scope)
  rw [found, Option.elim_some, weight_fill] at moved
  unfold Balanced at balanced ⊢
  dsimp only
  omega

theorem Balanced.step (balanced : bench.Balanced scope 0) (action : Action) : (bench.step action).2.Balanced scope 0 := by
  have steps := bench.steps_step action
  generalize (bench.step action).1 = answer, (bench.step action).2 = after at steps ⊢
  cases steps with
  | refused undone => exact balanced
  | made name kind => exact (balanced.make kind).place name
  | filled found payload => exact balanced.fill found payload
  | stayed name route => exact balanced
  | moved route apart found => exact balanced.move found _
  | dropped name => exact balanced.drop name

theorem Balanced.run (balanced : bench.Balanced scope 0) (actions : List Action) :
    (bench.run actions).Balanced scope 0 := by
  induction actions generalizing bench with
  | nil => exact balanced
  | cons action rest ih => exact ih (balanced.step action)

/-- How many buffers are not empty, of one kind or of all. -/
def filled (bench : Bench) (scope : Option MessageKind) : Nat :=
  (bench.buffers.entries.filter (fun entry =>
    entry.2.storage.isSome ∧ scope.all (fun asked => asked = entry.2.kind))).length

theorem tally_run (actions : List Action) (scope : Option MessageKind) :
    (empty.run actions).ledger.tally scope Calls.init =
      (empty.run actions).ledger.tally scope Calls.fini + (empty.run actions).filled scope := by
  refine ((balanced_empty scope).run actions).trans ?_
  rw [Nat.add_zero]
  exact congrArg _ (Table.total_ite _ _)

end Bench

end MessageBuffer

end PubSub
