import PubSub.Ownership.Registry
import PubSub.Proofs.Ownership.Release

/-!
Finalization in a registry.  A handle is owned by its names and by its children.  An operation finalizes
exactly the handles that it leaves without an owner, on the values that they then have; every failure is
counted and takes its reason away.
-/

namespace PubSub

/-- A finalizer that ran: what it logged, what it answered, and the reason that it left, if any. -/
structure FinalizerRun where
  shown : Finalized
  result : Int
  reason : Option Bytes

namespace FinalizerRun

def ofHandle (held : Handle Tracked) : FinalizerRun :=
  { shown := { kind := held.kind, value := some held.resource.value }
    result := held.resource.result
    reason := held.resource.reason }

def failed (run : FinalizerRun) : Bool :=
  decide (run.result ≠ 0)

/-- The reason after several finalizers: a fault takes it away, any other run leaves its own. -/
def reasonAfter (before : Bytes) : List FinalizerRun → Bytes
  | [] => before
  | run :: rest => reasonAfter (if run.failed then [] else run.reason.getD before) rest

end FinalizerRun

namespace Diagnostics

def after (diagnostics : Diagnostics) (runs : List FinalizerRun) : Diagnostics :=
  { log := diagnostics.log ++ runs.map FinalizerRun.shown
    faults := diagnostics.faults + runs.countP FinalizerRun.failed
    reason := FinalizerRun.reasonAfter diagnostics.reason runs }

theorem after_nil (diagnostics : Diagnostics) : diagnostics.after [] = diagnostics := by
  unfold after
  rw [List.map_nil, List.append_nil]
  rfl

theorem after_finalize (diagnostics : Diagnostics) (run : FinalizerRun) (rest : List FinalizerRun) :
    (diagnostics.finalize run.shown run.result run.reason).after rest =
      diagnostics.after (run :: rest) := by
  unfold finalize after
  by_cases fine : run.result = 0
  · simp [FinalizerRun.reasonAfter, FinalizerRun.failed, fine]
  · simp [FinalizerRun.reasonAfter, FinalizerRun.failed, fine, report, Nat.add_assoc,
      Nat.add_comm 1]

theorem foldl_finalize (chain : List (Nat × Handle Tracked))
    (parent : Nat × Handle Tracked → Option (Handle Tracked)) (diagnostics : Diagnostics) :
    chain.foldl (fun current entry => Tracked.finalize entry.2 (parent entry) current) diagnostics =
      diagnostics.after (chain.map (fun entry => .ofHandle entry.2)) := by
  induction chain generalizing diagnostics with
  | nil => exact diagnostics.after_nil.symm
  | cons entry rest ih =>
      rw [List.foldl_cons, ih]
      exact diagnostics.after_finalize (.ofHandle entry.2) _

end Diagnostics

namespace Registry

def holders (registry : Registry) (handle : Nat) : Nat :=
  registry.names.total (fun owner => [owner].count handle)

/-- Every handle is owned by its names, its children and those who have it in hand; the rest is recorded. -/
structure SoundWith (registry : Registry) (inHand : List Nat) : Prop where
  balanced : registry.forest.Balanced (fun handle => registry.holders handle + inHand.count handle)
  recorded : registry.forest.Recorded

variable {registry : Registry}

theorem SoundWith.release {handle : Nat} (sound : registry.SoundWith [handle]) :
    (registry.release handle).SoundWith [] ∧
      ∃ chain, Forest.Releases Tracked.finalize registry.forest (registry.release handle).forest chain
        registry.diagnostics (registry.release handle).diagnostics := by
  obtain ⟨left, chain, releases⟩ :=
    sound.balanced.release Tracked.finalize handle registry.diagnostics (fun _ => rfl)
  exact ⟨⟨left.congr (fun _ => rfl), sound.recorded.releases sound.balanced releases⟩, chain, releases⟩

/-- A share in hand is put under a name, and the one that was there is given up. -/
theorem SoundWith.place {handle : Nat} (sound : registry.SoundWith [handle]) (name : String) :
    (registry.place name handle).SoundWith [] ∧
      ∃ chain, Forest.Releases Tracked.finalize registry.forest
        (registry.place name handle).forest chain registry.diagnostics
        (registry.place name handle).diagnostics := by
  have moved := fun other => registry.names.total_set name handle (fun owner => [owner].count other)
  unfold Registry.place
  cases found : registry.names.get? name with
  | none =>
      refine ⟨⟨sound.balanced.congr (fun other => ?_), sound.recorded⟩, [], ?_⟩
      · have here := moved other
        rw [found, Option.elim_none] at here
        exact here.symm
      · exact Forest.Releases.none_gone rfl rfl (fun _ => rfl) _
  | some previous =>
      have placed : ({ registry with names := registry.names.set name handle } : Registry).SoundWith
          [previous] := by
        refine ⟨sound.balanced.congr (fun other => ?_), sound.recorded⟩
        have here := moved other
        rw [found, Option.elim_some] at here
        exact here.symm
      exact placed.release

theorem SoundWith.drop (sound : registry.SoundWith []) (name : String) :
    (registry.drop name).SoundWith [] ∧
      ∃ chain, Forest.Releases Tracked.finalize registry.forest (registry.drop name).forest chain
        registry.diagnostics (registry.drop name).diagnostics := by
  have erased := fun other => registry.names.total_erase name (fun owner => [owner].count other)
  unfold Registry.drop
  cases found : registry.names.get? name with
  | none => exact ⟨sound, [], Forest.Releases.none_gone rfl rfl (fun _ => rfl) _⟩
  | some handle =>
      have left : ({ registry with names := registry.names.erase name } : Registry).SoundWith
          [handle] := by
        refine ⟨sound.balanced.congr (fun other => ?_), sound.recorded⟩
        have here := erased other
        rw [found, Option.elim_some] at here
        exact here.symm
      exact left.release

def nameAfter (registry : Registry) (action : Action) (name : String) : Option Nat :=
  match action with
  | .make target _ _ parent =>
      if name = target ∧ ∀ above ∈ parent, registry.names.contains above = true then
        some registry.forest.handles.next
      else registry.names.get? name
  | .alias target source =>
      if name = target ∧ registry.names.contains source = true then registry.names.get? source
      else registry.names.get? name
  | .drop target => if name = target then none else registry.names.get? name
  | _ => registry.names.get? name

def resourceAfter (registry : Registry) (action : Action) (handle : Nat) (tracked : Tracked) :
    Tracked :=
  match action with
  | .add name number =>
      if registry.names.get? name = some handle then
        { tracked with value := tracked.value + number }
      else tracked
  | .failInside name =>
      if registry.names.get? name = some handle then { tracked with value := -1 } else tracked
  | _ => tracked

/-- The finalizers that an operation runs: those of a chain of handles, and that of a refused resource. -/
def runsOf (action : Action) (chain : List (Nat × Handle Tracked)) : List FinalizerRun :=
  match action with
  | .makeRefused kind result reason =>
      chain.map (fun entry => .ofHandle entry.2) ++
        [{ shown := { kind, value := none }, result, reason }]
  | _ => chain.map (fun entry => .ofHandle entry.2)

def diagnosticsAfter (registry : Registry) (action : Action) (chain : List (Nat × Handle Tracked)) :
    Diagnostics :=
  match action with
  | .setReason reason => { registry.diagnostics.after (runsOf action chain) with reason }
  | .report => (registry.diagnostics.after (runsOf action chain)).report
  | _ => registry.diagnostics.after (runsOf action chain)

def newHandle (registry : Registry) (action : Action) : Option (Bytes × Tracked × Option Nat) :=
  match action with
  | .make _ kind tracked none => some (kind, tracked, none)
  | .make _ kind tracked (some parent) =>
      (registry.names.get? parent).map (fun above => (kind, tracked, some above))
  | _ => none

structure Did (registry : Registry) (action : Action) (later : Registry)
    (chain : List (Nat × Handle Tracked)) : Prop where
  finalized : later.forest.finalized = registry.forest.finalized ++ chain
  held : ∀ entry ∈ chain,
    (registry.forest.get? entry.1).map Handle.content = some entry.2.content
  diagnostics : later.diagnostics = registry.diagnosticsAfter action chain
  names : ∀ name, later.names.get? name = registry.nameAfter action name
  kept : ∀ handle held, registry.forest.get? handle = some held → handle ∉ chain.map Prod.fst →
    (later.forest.get? handle).map Handle.content =
      some (held.kind, registry.resourceAfter action handle held.resource, held.parent)
  made : (later.forest.get? registry.forest.handles.next).map Handle.content =
    registry.newHandle action

theorem names_place (registry : Registry) (name other : String) (handle : Nat) :
    (registry.place name handle).names.get? other =
      if other = name then some handle else registry.names.get? other := by
  unfold place
  cases registry.names.get? name <;> exact Table.get?_set _ _ _ _

theorem names_drop (registry : Registry) (name other : String) :
    (registry.drop name).names.get? other =
      if other = name then none else registry.names.get? other := by
  unfold drop
  cases found : registry.names.get? name with
  | none =>
      by_cases same : other = name
      · rw [if_pos same, same]
        exact found
      · rw [if_neg same]
  | some handle => exact Table.get?_erase _ _ _

theorem get?_next (forest : Forest Tracked) : forest.get? forest.handles.next = none :=
  Arena.get?_next _

variable {later : Registry} {action : Action}

theorem Did.still (forest : later.forest = registry.forest)
    (diagnostics : later.diagnostics = registry.diagnosticsAfter action [])
    (names : ∀ name, later.names.get? name = registry.nameAfter action name)
    (resource : ∀ handle held, registry.forest.get? handle = some held →
      registry.resourceAfter action handle held.resource = held.resource)
    (new : registry.newHandle action = none) : Did registry action later [] where
  finalized := by rw [forest, List.append_nil]
  held := fun _ member => nomatch member
  diagnostics := diagnostics
  names := names
  kept := by
    intro handle held found _
    rw [forest, found, resource handle held found]
    rfl
  made := by rw [forest, get?_next, new, Option.map_none]

theorem Did.released {middle : Forest Tracked} {chain : List (Nat × Handle Tracked)}
    (releases : Forest.Releases Tracked.finalize middle later.forest chain registry.diagnostics
      later.diagnostics)
    (before : ∀ handle, handle ≠ registry.forest.handles.next →
      (middle.get? handle).map Handle.content = (registry.forest.get? handle).map Handle.content)
    (fresh : (middle.get? registry.forest.handles.next).map Handle.content =
      registry.newHandle action)
    (finalized : middle.finalized = registry.forest.finalized)
    (stays : registry.forest.handles.next ∉ chain.map Prod.fst)
    (diagnostics : registry.diagnosticsAfter action chain =
      registry.diagnostics.after (chain.map (fun entry => .ofHandle entry.2)))
    (names : ∀ name, later.names.get? name = registry.nameAfter action name)
    (resource : ∀ handle tracked, registry.resourceAfter action handle tracked = tracked) :
    Did registry action later chain where
  finalized := by rw [releases.finalized, finalized]
  held := by
    intro entry member
    have old : entry.1 ≠ registry.forest.handles.next :=
      fun same => stays (same ▸ List.mem_map_of_mem member)
    rw [← before entry.1 old, releases.held entry member, Option.map_some]
  diagnostics := by
    rw [releases.state, Diagnostics.foldl_finalize, diagnostics]
  names := names
  kept := by
    intro handle held found gone
    have old : handle ≠ registry.forest.handles.next := by
      intro same
      rw [same, get?_next] at found
      cases found
    rw [releases.kept handle gone, before handle old, found, resource]
    rfl
  made := by
    rw [releases.kept _ stays, fresh]

theorem SoundWith.setValue (sound : registry.SoundWith []) (handle : Nat) (value : Int64)
    (resource : ∀ other held, registry.forest.get? other = some held →
      registry.resourceAfter action other held.resource =
        if other = handle then { held.resource with value } else held.resource)
    (diagnostics : registry.diagnostics = registry.diagnosticsAfter action [])
    (names : ∀ other, registry.names.get? other = registry.nameAfter action other)
    (new : registry.newHandle action = none) :
    (registry.setValue handle value).SoundWith [] ∧
      ∃ chain, Did registry action (registry.setValue handle value) chain := by
  have balanced := sound.balanced.modify handle (fun tracked : Tracked => { tracked with value })
  have recorded := sound.recorded.modify handle (fun tracked : Tracked => { tracked with value })
  have changed := fun other => registry.forest.get?_modifyHandle handle other
    (fun held => { held with resource := { held.resource with value } })
  refine ⟨⟨balanced, recorded⟩, [], ?_⟩
  constructor
  · exact (List.append_nil _).symm
  · exact fun _ member => nomatch member
  · exact diagnostics
  · exact names
  · intro other held found _
    refine (congrArg (Option.map Handle.content) (changed other)).trans ?_
    rw [resource other held found]
    by_cases same : other = handle
    · subst other
      rw [if_pos rfl, if_pos rfl, found]
      rfl
    · rw [if_neg same, if_neg same, found]
      rfl
  · refine (congrArg (Option.map Handle.content) (changed _)).trans ?_
    rw [new, Option.map_eq_none_iff]
    by_cases same : registry.forest.handles.next = handle
    · rw [if_pos same, ← same, get?_next, Option.map_none]
    · rw [if_neg same, get?_next]

theorem find?_eq_some {name : String} {handle : Nat} {value : Int64}
    (found : registry.find? name = some (handle, value)) :
    registry.names.get? name = some handle ∧
      ∃ held, registry.forest.get? handle = some held ∧ held.resource.value = value := by
  unfold find? at found
  cases under : registry.names.get? name with
  | none => simp [under] at found
  | some owner =>
      simp only [under, Option.map_eq_some_iff, Prod.mk.injEq] at found
      obtain ⟨held, there, rfl, same⟩ := found
      exact ⟨rfl, held, there, same⟩

theorem SoundWith.find?_eq_none (sound : registry.SoundWith []) {name : String}
    (missing : registry.find? name = none) : registry.names.get? name = none := by
  unfold find? at missing
  cases under : registry.names.get? name with
  | none => rfl
  | some owner =>
      have named := registry.names.le_total under (fun other => [other].count owner)
      rw [List.count_singleton_self] at named
      obtain ⟨held, there⟩ := (sound.balanced.owned_iff owner).1 (by
        unfold holders
        omega)
      simp [under, there] at missing

theorem SoundWith.exists_of_named {inHand : List Nat} (sound : registry.SoundWith inHand)
    {name : String} {handle : Nat} (under : registry.names.get? name = some handle) :
    ∃ held, registry.forest.get? handle = some held := by
  have named := registry.names.le_total under (fun owner => [owner].count handle)
  rw [List.count_singleton_self] at named
  have positive : 0 < registry.holders handle := named
  exact (sound.balanced.owned_iff handle).1 (by omega)

theorem SoundWith.make (sound : registry.SoundWith []) (name : String) (kind : Bytes)
    (tracked : Tracked) (parent : Option Nat)
    (present : ∀ above ∈ parent, ∃ held, registry.forest.get? above = some held)
    (names : ∀ other, registry.nameAfter action other =
      if other = name then some registry.forest.handles.next else registry.names.get? other)
    (resource : ∀ handle tracked, registry.resourceAfter action handle tracked = tracked)
    (diagnostics : ∀ chain, registry.diagnosticsAfter action chain =
      registry.diagnostics.after (chain.map (fun entry => .ofHandle entry.2)))
    (new : registry.newHandle action = some (kind, tracked, parent)) :
    (registry.make name kind tracked parent).SoundWith [] ∧
      ∃ chain, Did registry action (registry.make name kind tracked parent) chain := by
  have content := registry.forest.content_make kind tracked parent
  have made : ({ registry with forest := (registry.forest.make kind tracked parent).2 } :
      Registry).SoundWith [registry.forest.handles.next] :=
    ⟨(sound.balanced.make kind tracked parent present).congr (fun _ => rfl),
      sound.recorded.make kind tracked parent⟩
  have renamed := names_place { registry with forest := (registry.forest.make kind tracked parent).2 }
    name
  have placed : registry.make name kind tracked parent =
      ({ registry with forest := (registry.forest.make kind tracked parent).2 } : Registry).place name
        registry.forest.handles.next := by
    unfold Registry.make Forest.make
    cases parent <;> rfl
  rw [placed]
  obtain ⟨settled, chain, releases⟩ := made.place name
  refine ⟨settled, chain, Did.released releases (fun handle old => ?_) ?_ ?_ ?_ (diagnostics chain)
    (fun other => ?_) resource⟩
  · rw [content, if_neg old]
  · rw [content, if_pos rfl, new]
  · unfold Forest.make
    cases parent <;> rfl
  · intro member
    obtain ⟨entry, there, same⟩ := List.mem_map.mp member
    have gone := releases.gone entry there
    obtain ⟨held, found⟩ := settled.exists_of_named
      ((renamed name registry.forest.handles.next).trans (if_pos rfl))
    rw [same, found] at gone
    cases gone
  · rw [names]
    exact renamed other _

theorem notMem_of_releases {middle after : Forest Tracked} {chain : List (Nat × Handle Tracked)}
    {before diagnostics : Diagnostics} {handle : Nat}
    (releases : Forest.Releases Tracked.finalize middle after chain before diagnostics)
    (absent : (middle.get? handle).map Handle.content = none) : handle ∉ chain.map Prod.fst := by
  intro member
  obtain ⟨entry, there, same⟩ := List.mem_map.mp member
  have held := releases.held entry there
  rw [same] at held
  rw [held] at absent
  cases absent

theorem SoundWith.share (sound : registry.SoundWith []) {source : String} {handle : Nat}
    (under : registry.names.get? source = some handle) (name : String) :
    (({ registry with forest := registry.forest.retain handle } : Registry).place name handle).SoundWith [] ∧
      ∃ chain, Did registry (.alias name source)
        (({ registry with forest := registry.forest.retain handle } : Registry).place name handle) chain := by
  have shared : ({ registry with forest := registry.forest.retain handle } : Registry).SoundWith [handle] :=
    ⟨(sound.balanced.retain handle (sound.exists_of_named under)).congr (fun _ => rfl),
      sound.recorded.retain handle⟩
  have content := registry.forest.content_retain handle
  have absent : ((registry.forest.retain handle).get?
      registry.forest.handles.next).map Handle.content = none := by
    rw [content, get?_next, Option.map_none]
  obtain ⟨settled, chain, releases⟩ := shared.place name
  refine ⟨settled, chain, Did.released releases (fun other _ => content other) absent rfl
    (notMem_of_releases releases absent) rfl (fun other => ?_) (fun _ _ => rfl)⟩
  rw [names_place]
  simp [nameAfter, Table.contains, under]

/-- Every operation keeps the owners in step, and does what it is to do. -/
theorem SoundWith.step (sound : registry.SoundWith []) (action : Action) :
    (registry.step action).2.SoundWith [] ∧ ∃ chain, Did registry action (registry.step action).2 chain := by
  cases action with
  | make name kind tracked parent =>
      cases parent with
      | none =>
          refine sound.make name kind tracked none (fun _ member => nomatch member) (fun other => ?_)
            (fun _ _ => rfl) (fun _ => rfl) rfl
          simp [nameAfter]
      | some parent =>
          dsimp only [Registry.step]
          cases under : registry.names.get? parent with
          | none =>
              refine ⟨sound, [], Did.still rfl registry.diagnostics.after_nil.symm (fun other => ?_)
                (fun _ _ _ => rfl) ?_⟩
              · simp [nameAfter, Table.contains, under]
              · simp [newHandle, under]
          | some above =>
              refine sound.make name kind tracked (some above) ?_ (fun other => ?_)
                (fun _ _ => rfl) (fun _ => rfl) ?_
              · intro owner member
                rw [Option.mem_some_iff] at member
                exact sound.exists_of_named (member ▸ under)
              · simp [nameAfter, Table.contains, under]
              · simp [newHandle, under]
  | makeRefused kind result reason =>
      refine ⟨⟨sound.balanced, sound.recorded⟩, [],
        Did.still rfl ?_ (fun _ => rfl) (fun _ _ _ => rfl) rfl⟩
      have ran := registry.diagnostics.after_finalize
        { shown := { kind, value := none }, result, reason } []
      rw [Diagnostics.after_nil] at ran
      exact ran
  | «alias» name source =>
      dsimp only [Registry.step]
      cases under : registry.names.get? source with
      | none =>
          refine ⟨sound, [], Did.still rfl registry.diagnostics.after_nil.symm (fun other => ?_)
            (fun _ _ _ => rfl) rfl⟩
          simp [nameAfter, Table.contains, under]
      | some handle => exact sound.share under name
  | add name number =>
      dsimp only [Registry.step]
      cases found : registry.find? name with
      | none =>
          have nameless := sound.find?_eq_none found
          refine ⟨sound, [], Did.still rfl registry.diagnostics.after_nil.symm (fun _ => rfl)
            (fun other held _ => ?_) rfl⟩
          simp [resourceAfter, nameless]
      | some place =>
          obtain ⟨handle, value⟩ := place
          obtain ⟨under, held, there, same⟩ := find?_eq_some found
          refine sound.setValue handle (value + number) (fun other state present => ?_)
            registry.diagnostics.after_nil.symm (fun _ => rfl) rfl
          by_cases equal : other = handle
          · subst other
            rw [there, Option.some.injEq] at present
            subst state
            simp [resourceAfter, under, same]
          · simp [resourceAfter, under, equal, Ne.symm equal]
  | read name =>
      dsimp only [Registry.step]
      cases registry.find? name with
      | none =>
          exact ⟨sound, [], Did.still rfl registry.diagnostics.after_nil.symm (fun _ => rfl)
            (fun _ _ _ => rfl) rfl⟩
      | some place =>
          exact ⟨sound, [], Did.still rfl registry.diagnostics.after_nil.symm (fun _ => rfl)
            (fun _ _ _ => rfl) rfl⟩
  | failInside name =>
      dsimp only [Registry.step]
      cases found : registry.find? name with
      | none =>
          have nameless := sound.find?_eq_none found
          refine ⟨sound, [], Did.still rfl registry.diagnostics.after_nil.symm (fun _ => rfl)
            (fun other held _ => ?_) rfl⟩
          simp [resourceAfter, nameless]
      | some place =>
          obtain ⟨handle, value⟩ := place
          obtain ⟨under, held, there, same⟩ := find?_eq_some found
          refine sound.setValue handle (-1) (fun other state present => ?_)
            registry.diagnostics.after_nil.symm (fun _ => rfl) rfl
          by_cases equal : other = handle
          · simp [resourceAfter, under, equal]
          · simp [resourceAfter, under, equal, Ne.symm equal]
  | drop name =>
      obtain ⟨settled, chain, releases⟩ := sound.drop name
      have absent : (registry.forest.get? registry.forest.handles.next).map Handle.content = none := by
        rw [get?_next, Option.map_none]
      exact ⟨settled, chain, Did.released releases (fun _ _ => rfl) absent rfl (notMem_of_releases releases absent)
        rfl (registry.names_drop name) (fun _ _ => rfl)⟩
  | setReason reason =>
      refine ⟨⟨sound.balanced, sound.recorded⟩, [],
        Did.still rfl ?_ (fun _ => rfl) (fun _ _ _ => rfl) rfl⟩
      change _ = { registry.diagnostics.after [] with reason }
      rw [Diagnostics.after_nil]
      rfl
  | report =>
      refine ⟨⟨sound.balanced, sound.recorded⟩, [],
        Did.still rfl ?_ (fun _ => rfl) (fun _ _ _ => rfl) rfl⟩
      change _ = (registry.diagnostics.after []).report
      rw [Diagnostics.after_nil]
      rfl

theorem soundWith_empty : empty.SoundWith [] :=
  ⟨Forest.balanced_empty (fun _ => rfl), Forest.recorded_empty⟩

theorem SoundWith.run (sound : registry.SoundWith []) (actions : List Action) :
    (registry.run actions).SoundWith [] := by
  induction actions generalizing registry with
  | nil => exact sound
  | cons action rest ih => exact ih (sound.step action).1

/-- Whether an operation reports a fault, apart from those of the handles that it finalizes. -/
def Action.faulty : Action → Bool
  | .makeRefused _ result _ => decide (result ≠ 0)
  | .report => true
  | _ => false

def failures (registry : Registry) : Nat :=
  registry.forest.finalized.countP (fun entry => (FinalizerRun.ofHandle entry.2).failed)

theorem Did.faults {chain : List (Nat × Handle Tracked)} (did : Did registry action later chain) :
    later.diagnostics.faults + registry.failures =
      registry.diagnostics.faults + later.failures + [action].countP Action.faulty := by
  have more : later.failures = registry.failures +
      (chain.map (fun entry => FinalizerRun.ofHandle entry.2)).countP FinalizerRun.failed := by
    unfold failures
    rw [did.finalized, List.countP_append, List.countP_map]
    rfl
  rw [did.diagnostics, more]
  cases action with
  | makeRefused kind result reason =>
      have own : FinalizerRun.failed { shown := { kind, value := none }, result, reason } =
          Action.faulty (.makeRefused kind result reason) := rfl
      simp only [diagnosticsAfter, runsOf, Diagnostics.after, List.countP_append,
        List.countP_singleton, own]
      omega
  | report =>
      simp only [diagnosticsAfter, runsOf, Diagnostics.after, Diagnostics.report,
        List.countP_singleton, Action.faulty, ↓reduceIte]
      omega
  | _ =>
      simp only [diagnosticsAfter, runsOf, Diagnostics.after, List.countP_singleton, Action.faulty,
        Bool.false_eq_true, ↓reduceIte]
      omega

/-- Along a run, the faults are the failures of finalizers and those that were reported otherwise. -/
theorem SoundWith.faults (sound : registry.SoundWith []) (actions : List Action) :
    (registry.run actions).diagnostics.faults + registry.failures =
      registry.diagnostics.faults + (registry.run actions).failures +
        actions.countP Action.faulty := by
  induction actions generalizing registry with
  | nil => rfl
  | cons action rest ih =>
      obtain ⟨settled, chain, did⟩ := sound.step action
      have first := did.faults
      have later := ih settled
      have split : (action :: rest).countP Action.faulty =
          [action].countP Action.faulty + rest.countP Action.faulty := by
        rw [← List.singleton_append, List.countP_append]
      have ran : registry.run (action :: rest) = (registry.step action).2.run rest := rfl
      rw [ran]
      omega

theorem SoundWith.exists_iff (sound : registry.SoundWith []) (handle : Nat) :
    (∃ held, registry.forest.get? handle = some held) ↔
      (∃ name, registry.names.get? name = some handle) ∨
        ∃ child held, registry.forest.get? child = some held ∧ held.parent = some handle := by
  constructor
  · intro present
    have owned := (sound.balanced.owned_iff handle).2 present
    rw [List.count_nil, Nat.add_zero] at owned
    by_cases named : 0 < registry.holders handle
    · obtain ⟨name, owner, under, counts⟩ := registry.names.exists_of_total_pos _ named
      rw [List.count_pos_iff, List.mem_singleton] at counts
      exact .inl ⟨name, counts ▸ under⟩
    · exact .inr (Forest.exists_child_of_children_pos (by omega))
  · rintro (⟨name, under⟩ | ⟨child, held, found, above⟩)
    · exact sound.exists_of_named under
    · exact sound.balanced.exists_parent found above

/--
Along every run, a handle exists for as long as it has a name or a child.  Each handle that was made and is
gone was finalized exactly once, on the value that it then had and after all of its children, and the faults
are the failures of finalizers.  What every further operation does is told by `Did`; a resource that cannot
be held is finalized at once, and refused.
-/
theorem finalized_with_last_owner (actions : List Action) :
    let registry := run .empty actions
    (∀ handle, (∃ held, registry.forest.get? handle = some held) ↔
      (∃ name, registry.names.get? name = some handle) ∨
        ∃ child held, registry.forest.get? child = some held ∧ held.parent = some handle) ∧
      (∀ handle, (registry.forest.finalized.map Prod.fst).count handle =
        if handle < registry.forest.handles.next ∧ registry.forest.get? handle = none then 1 else 0) ∧
      registry.forest.finalized.Pairwise (fun early late => late.2.parent ≠ some early.1) ∧
      registry.diagnostics.faults = registry.failures + actions.countP Action.faulty ∧
      (∀ action, ∃ chain, Did registry action (registry.step action).2 chain) ∧
      (∀ kind result reason, registry.step (.makeRefused kind result reason) =
        (.refused,
          { registry with
            diagnostics :=
              registry.diagnostics.after [{ shown := { kind, value := none }, result, reason }] })) ∧
      (registry.names.keys = [] → ∀ handle, registry.forest.get? handle = none) := by
  intro registry
  have sound : registry.SoundWith [] := soundWith_empty.run actions
  refine ⟨sound.exists_iff, sound.recorded.count, sound.recorded.ordered, ?_,
    fun action => (sound.step action).2, fun kind result reason => ?_, fun nameless => ?_⟩
  · have faults : registry.diagnostics.faults + empty.failures =
        empty.diagnostics.faults + registry.failures + actions.countP Action.faulty :=
      soundWith_empty.faults actions
    have none : empty.failures = 0 := rfl
    have start : empty.diagnostics.faults = 0 := rfl
    omega
  · have ran := registry.diagnostics.after_finalize
      { shown := { kind, value := none }, result, reason } []
    rw [Diagnostics.after_nil] at ran
    rw [← ran]
    rfl
  · apply sound.balanced.eq_none
    intro handle
    rw [List.count_nil, Nat.add_zero]
    by_contra named
    obtain ⟨name, owner, under, _⟩ := registry.names.exists_of_total_pos _ (Nat.pos_of_ne_zero named)
    have member := (registry.names.mem_keys_iff name).2 ⟨owner, under⟩
    rw [nameless] at member
    cases member

end Registry

end PubSub
