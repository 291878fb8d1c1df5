import PubSub.Proofs.Buffers.Custody

/-!
What a view of a buffer shows.  A view compares kinds, and an emptied buffer keeps its kind, so that a view of it by that
kind is granted although there is nothing to see.  Which buffers are empty is told by the moves so far.
-/

namespace PubSub.MessageBuffer

def Bench.past (earlier : List Action) : Bench :=
  Bench.empty.run earlier.reverse

theorem Bench.past_cons (action : Action) (earlier : List Action) :
    past (action :: earlier) = ((past earlier).step action).2 := by
  unfold past run
  rw [List.reverse_cons, List.foldl_append, List.foldl_cons, List.foldl_nil]

def Action.renews (name : String) : Action → Prop
  | make place (some _) => place = name
  | drop place => place = name
  | moveInto place source => place = name ∧ place ≠ source
  | moveAssign place source => place = name ∧ place ≠ source
  | _ => False

inductive Emptied : List Action → String → Prop
  | taken {earlier : List Action} {action : Action} {name source : String} (route : action.route = some (name, source))
      (apart : name ≠ source) (done : ((Bench.past earlier).step action).1 = .done) :
      Emptied (action :: earlier) source
  | passed {earlier : List Action} {action : Action} {name source : String} (route : action.route = some (name, source))
      (apart : name ≠ source) (done : ((Bench.past earlier).step action).1 = .done) (empty : Emptied earlier source) :
      Emptied (action :: earlier) name
  | stayed {earlier : List Action} {action : Action} {name : String} (empty : Emptied earlier name)
      (spared : ((Bench.past earlier).step action).1 = .done → ¬ action.renews name) :
      Emptied (action :: earlier) name

def Bench.Bare (bench : Bench) (name : String) : Prop :=
  (bench.buffers.get? name).map MessageBuffer.storage = some none

/-- How an operation with some answer leaves the buffer of a name empty, where `bare` tells which ones were empty before. -/
def Action.Empties (action : Action) (answer : Answer) (bare : String → Prop) (name : String) : Prop :=
  (∃ target, action.route = some (target, name) ∧ target ≠ name ∧ answer = .done) ∨
  (∃ source, action.route = some (name, source) ∧ name ≠ source ∧ answer = .done ∧ bare source) ∨
  (bare name ∧ (answer = .done → ¬ action.renews name))

theorem emptied_cons_iff (action : Action) (earlier : List Action) (name : String) :
    Emptied (action :: earlier) name ↔
      action.Empties ((Bench.past earlier).step action).1 (Emptied earlier) name := by
  constructor
  · intro emptied
    cases emptied with
    | taken route apart done => exact .inl ⟨_, route, apart, done⟩
    | passed route apart done empty => exact .inr (.inl ⟨_, route, apart, done, empty⟩)
    | stayed empty spared => exact .inr (.inr ⟨empty, spared⟩)
  · rintro (⟨target, route, apart, done⟩ | ⟨source, route, apart, done, empty⟩ | ⟨empty, spared⟩)
    · exact .taken route apart done
    · exact .passed route apart done empty
    · exact .stayed empty spared

section Bare

variable {bench after : Bench} {action : Action} {answer : Answer} {buffer : MessageBuffer} {name source : String}

theorem Action.renews_of_route (route : action.route = some (name, source)) (other : String) :
    action.renews other ↔ name = other ∧ name ≠ source := by
  cases action with
  | moveInto | moveAssign =>
      cases route
      exact Iff.rfl
  | make | fill | view | drop => cases route

theorem Action.empties_of_undone (undone : answer ≠ .done) (bare : String → Prop) :
    action.Empties answer bare name ↔ bare name := by
  unfold Empties
  simp only [undone, false_and, and_false, exists_false, false_or, false_imp_iff, and_true]

theorem Action.empties_of_no_route (unrouted : action.route = none) (bare : String → Prop) :
    action.Empties .done bare name ↔ bare name ∧ ¬ action.renews name := by
  unfold Empties
  simp only [unrouted, reduceCtorEq, false_and, exists_false, false_or, true_imp_iff]

theorem Action.empties_of_route (route : action.route = some (name, source)) (bare : String → Prop) (other : String) :
    action.Empties .done bare other ↔
      if name = source then bare other else if other = name then bare source else other = source ∨ bare other := by
  unfold Empties
  simp only [route, Option.some.injEq, Prod.mk.injEq, renews_of_route route, true_imp_iff, true_and, ne_eq]
  by_cases same : name = source
  · subst source
    rw [if_pos rfl]
    grind
  · rw [if_neg same]
    by_cases target : other = name
    · subst other
      rw [if_pos rfl]
      grind
    · rw [if_neg target]
      grind

theorem Bench.bare_set (ledger : Ledger) (name : String) (buffer : MessageBuffer) (other : String) :
    ({ ledger, buffers := bench.buffers.set name buffer } : Bench).Bare other ↔
      if other = name then buffer.storage = none else bench.Bare other := by
  unfold Bare
  dsimp only
  rw [Table.get?_set]
  by_cases same : other = name
  · rw [if_pos same, if_pos same, Option.map_some, Option.some.injEq]
  · rw [if_neg same, if_neg same]

theorem Bench.bare_drop (bench : Bench) (name other : String) :
    (bench.drop name).Bare other ↔ bench.Bare other ∧ name ≠ other := by
  have erased : (bench.drop name).buffers.get? other = if other = name then none else bench.buffers.get? other := by
    unfold Bench.drop
    cases found : bench.buffers.get? name with
    | none =>
        by_cases same : other = name
        · rw [if_pos same, same]
          exact found
        · rw [if_neg same]
    | some buffer => exact bench.buffers.get?_erase name other
  unfold Bare
  rw [erased]
  by_cases same : other = name
  · rw [if_pos same]
    exact ⟨nofun, fun ⟨_, other⟩ => absurd same.symm other⟩
  · rw [if_neg same]
    exact ⟨fun bare => ⟨bare, Ne.symm same⟩, And.left⟩

theorem Bench.bare_move (found : bench.buffers.get? source = some buffer) (other : String) :
    (bench.move name source buffer).Bare other ↔
      if other = name then bench.Bare source else other = source ∨ bench.Bare other := by
  unfold Bare
  rw [Bench.get?_move]
  by_cases target : other = name
  · rw [if_pos target, if_pos target, found]
  · rw [if_neg target, if_neg target]
    by_cases source : other = source
    · rw [if_pos source]
      exact ⟨fun _ => .inl source, fun _ => rfl⟩
    · rw [if_neg source]
      exact (or_iff_right source).symm

theorem Bench.Steps.bare_iff (steps : bench.Steps action answer after) (name : String) :
    after.Bare name ↔ action.Empties answer bench.Bare name := by
  cases steps with
  | refused undone => exact (Action.empties_of_undone undone _).symm
  | made place kind =>
      refine (Bench.bare_set _ place _ name).trans (Iff.trans ?_ (Action.empties_of_no_route rfl _).symm)
      by_cases same : name = place
      · rw [if_pos same]
        exact ⟨nofun, fun ⟨_, other⟩ => absurd same.symm other⟩
      · rw [if_neg same]
        exact ⟨fun bare => ⟨bare, Ne.symm same⟩, And.left⟩
  | @filled place buffer found payload =>
      refine (Bench.bare_set _ place _ name).trans (Iff.trans ?_ (Action.empties_of_no_route rfl _).symm)
      refine Iff.trans ?_ (and_iff_left id).symm
      by_cases same : name = place
      · rw [if_pos same, same]
        unfold Bench.Bare fill
        rw [found, Option.map_some, Option.some.injEq, Option.map_eq_none_iff]
      · rw [if_neg same]
  | stayed place route =>
      rw [Action.empties_of_route route, if_pos rfl]
  | moved route apart found =>
      rw [Action.empties_of_route route, if_neg apart]
      exact Bench.bare_move found name
  | dropped place =>
      have unrouted : (Action.drop place).route = none := rfl
      exact (Bench.bare_drop _ place name).trans (Action.empties_of_no_route unrouted _).symm

end Bare

theorem emptied_iff_bare (earlier : List Action) (name : String) :
    Emptied earlier name ↔ (Bench.past earlier).Bare name := by
  induction earlier generalizing name with
  | nil => exact ⟨nofun, nofun⟩
  | cons action earlier ih =>
      have same : Emptied earlier = (Bench.past earlier).Bare := funext (fun name => propext (ih name))
      rw [emptied_cons_iff, Bench.past_cons, ((Bench.past earlier).steps_step action).bare_iff, same]

structure Shows (actions : List Action) (name : String) (kind : MessageKind) (answer : Answer) : Prop where
  unknown : answer = .unknownName ↔ (Bench.empty.run actions).buffers.get? name = none
  refused : answer = .misused .otherKind ↔
    ∃ buffer, (Bench.empty.run actions).buffers.get? name = some buffer ∧ buffer.kind ≠ kind
  viewed : ∀ layout, answer = .viewed (some layout) ↔
    ∃ block, (Depot.empty.run actions).holding name = some block ∧
      (Depot.empty.run actions).blocks.get? block = some { kind, layout } ∧
      (Depot.empty.run actions).course block = [.initialised block kind]
  missing : answer = .viewed none ↔
    (∃ buffer, (Bench.empty.run actions).buffers.get? name = some buffer ∧ buffer.kind = kind) ∧
      Emptied actions.reverse name

theorem Bench.step_view (bench : Bench) (name : String) (kind : MessageKind) :
    bench.step (.view name kind) =
      (match bench.buffers.get? name with
        | none => .unknownName
        | some buffer => if buffer.kind = kind then .viewed buffer.storage else .misused .otherKind, bench) := by
  unfold Bench.step MessageBuffer.view
  dsimp only
  cases bench.buffers.get? name with
  | none => rfl
  | some buffer =>
      dsimp only
      by_cases same : buffer.kind = kind
      · rw [if_pos same, if_pos same]
      · rw [if_neg same, if_neg same]

theorem Depot.SoundWith.kind_of_holding {depot : Depot} {bench : Bench} {name : String} {block : Nat} {held : Block}
    (sound : depot.SoundWith none) (sees : depot.Sees bench) (holds : depot.holding name = some block)
    (there : depot.blocks.get? block = some held) :
    ∃ buffer, bench.buffers.get? name = some buffer ∧ buffer.kind = held.kind := by
  obtain ⟨holder, named, own⟩ := (depot.holding_eq_some_iff name block).1 holds
  refine ⟨depot.buffer holder, ?_, (sound.kinds holder (.inr ⟨name, named⟩) block held own there).symm⟩
  rw [sees.buffers name, named, Option.map_some]

/-- A view throws, or it shows storage that was initialised through its kind and not finalized; but of an emptied buffer it
shows what is not there. -/
theorem shows_storage_unless_emptied (actions : List Action) (name : String) (kind : MessageKind) :
    Shows actions name kind ((Bench.empty.run actions).step (.view name kind)).1 ∧
    ((Bench.empty.run actions).step (.view name kind)).2 = Bench.empty.run actions := by
  have sound := Depot.soundWith_empty.run actions
  have sees := Depot.sees_empty.run Depot.soundWith_empty actions
  have emptied := emptied_iff_bare actions.reverse name
  rw [Bench.past, List.reverse_reverse, Bench.Bare] at emptied
  rw [Bench.step_view]
  refine ⟨?_, rfl⟩
  cases found : (Bench.empty.run actions).buffers.get? name with
  | none =>
      refine ⟨by simp [found], by simp [found], fun layout => iff_of_false (fun viewed => by cases viewed) ?_,
        by simp [found]⟩
      rintro ⟨block, holds, there, _⟩
      obtain ⟨buffer, named, _⟩ := sound.kind_of_holding sees holds there
      cases found.symm.trans named
  | some buffer =>
      rw [found, Option.map_some, Option.some.injEq] at emptied
      dsimp only
      by_cases same : buffer.kind = kind
      · subst kind
        rw [if_pos rfl]
        refine ⟨by simp [found], by simp [found], fun layout => ?_, by simp [found, emptied]⟩
        rw [Answer.viewed.injEq, sound.stored sees found layout]
        refine exists_congr (fun block => and_congr_right (fun _ => ?_))
        exact ⟨fun there => ⟨there, sound.course_of_found there⟩, And.left⟩
      · rw [if_neg same]
        refine ⟨by simp [found], by simp [found, same],
          fun layout => iff_of_false (fun viewed => by cases viewed) ?_, by simp [found, same]⟩
        rintro ⟨block, holds, there, _⟩
        obtain ⟨other, named, kind⟩ := sound.kind_of_holding sees holds there
        cases found.symm.trans named
        exact absurd kind same

/-- The buffer is emptied by the move, and the view is not refused. -/
theorem view_of_emptied :
    ((Bench.empty.run [.make "a" (some .int64), .moveInto "b" "a"]).step (.view "a" .int64)).1 = .viewed none := by
  decide

end PubSub.MessageBuffer
