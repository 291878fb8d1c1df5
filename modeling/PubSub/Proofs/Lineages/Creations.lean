import PubSub.Proofs.Client.Accounts

/-!
What is made on what.  A lineage is a run together with everything that is made in it: contexts, nodes on contexts, and
publishers and subscriptions on nodes.  What is on record of a handle, while it is there and when it is gone, is what it
was made as and the handle of what it was made on.
-/

namespace PubSub

namespace Resource

def sort : Resource → Owning
  | context _ => .context
  | node _ => .node
  | publisher _ => .publisher
  | subscription _ => .subscription

end Resource

namespace Forest

variable {Resource : Type} {before between after : Forest Resource}

structure Sheds (before after : Forest Resource) : Prop where
  handles : before.handles.Fewer Handle.content after.handles
  next : after.handles.next = before.handles.next
  recalls : ∀ entry ∈ after.finalized, entry ∈ before.finalized ∨
    ∃ old, before.get? entry.1 = some old ∧ old.content = entry.2.content

theorem Sheds.trans (early : before.Sheds between) (late : between.Sheds after) : before.Sheds after where
  handles := early.handles.trans late.handles
  next := late.next.trans early.next
  recalls entry member := by
    rcases late.recalls entry member with old | ⟨held, found, same⟩
    · exact early.recalls entry old
    · obtain ⟨first, there, content⟩ := early.handles entry.1 held found
      exact .inr ⟨first, there, content.trans same⟩

theorem sheds_retain (forest : Forest Resource) (handle : Nat) : forest.Sheds (forest.retain handle) where
  handles := forest.handles.fewer_modify handle (fun _ _ => rfl)
  next := rfl
  recalls _ member := .inl member

theorem Sheds.identity? (sheds : before.Sheds after) (early : before.Recorded) (late : after.Recorded) {handle : Nat}
    {content : Bytes × Resource × Option Nat} (known : before.identity? handle = some content) :
    after.identity? handle = some content := by
  have made := (early.made_iff handle).2 ⟨content, known⟩
  rw [← sheds.next] at made
  cases found : after.get? handle with
  | some held =>
      obtain ⟨old, there, same⟩ := sheds.handles handle held found
      rw [identity?_of_get? found, ← same, ← known, identity?_of_get? there]
  | none =>
      obtain ⟨⟨_, held⟩, member, rfl⟩ := List.mem_map.mp ((late.gone_iff handle).2 ⟨made, found⟩)
      rw [late.identity?_of_mem member, ← known]
      rcases sheds.recalls _ member with old | ⟨first, there, same⟩
      · rw [early.identity?_of_mem old]
      · rw [identity?_of_get? there, same]

end Forest

namespace Session

variable {session after : Session} {creation : Creation}

theorem Shrinks.sheds (shrinks : session.Shrinks after) {forest : Forest Resource}
    (same : session.forest = forest) : forest.Sheds after.forest :=
  same ▸ ⟨shrinks.handles, shrinks.next, shrinks.recalls⟩

/-- What is made is what the next handle is on record with; whoever had its name goes. -/
theorem Makes.founds (makes : session.Makes creation after) :
    creation.handle = session.forest.handles.next ∧ ∃ kind resource, resource.sort = creation.sort ∧
      (session.forest.make kind resource creation.base).2.Sheds after.forest := by
  cases makes with
  | context name clean made => exact ⟨rfl, _, .context _, rfl, (shrinks_dropContext _ name).sheds rfl⟩
  | @node name context handle nodeName space state middleware found cleanName cleanSpace made =>
      have retained := (session.forest.make (Run.quotedKind "node" nodeName) (.node (some state))
        (some handle)).2.sheds_retain handle
      exact ⟨rfl, _, .node _, rfl, retained.trans ((shrinks_dropNode _ name).sheds rfl)⟩
  | publisher name found clean made => exact ⟨rfl, _, .publisher _, rfl, (shrinks_dropPublisher _ name).sheds rfl⟩
  | subscription name registered orderly found clean made =>
      cases registered <;>
        exact ⟨rfl, _, .subscription _, rfl, (shrinks_dropSubscription _ name).sheds rfl⟩

theorem Makes.next (makes : session.Makes creation after) :
    after.forest.handles.next = session.forest.handles.next + 1 := by
  obtain ⟨_, _, _, _, sheds⟩ := makes.founds
  rw [sheds.next]
  unfold Forest.make
  cases creation.base <;> rfl

theorem Ends.forest {context : Nat} (ends : session.Ends context after) : after.forest = session.forest := by
  obtain ⟨_, _, rfl⟩ := ends
  rfl

end Session

namespace Scene

variable {first scene later : Scene} {log more : List Creation}

/-- What leads from a scene to another, with all that was made on the way. -/
inductive Lineage (first : Scene) : List Creation → Scene → Prop
  | refl : Lineage first [] first
  | moved {log : List Creation} {scene later : Scene} (lineage : Lineage first log scene) (move : scene.Move later)
      (handles : later.session.forest.handles.next = scene.session.forest.handles.next) : Lineage first log later
  | made {log : List Creation} {scene later : Scene} {creation : Creation} (lineage : Lineage first log scene)
      (move : scene.Move later) (makes : scene.session.Makes creation later.session) :
      Lineage first (log ++ [creation]) later

theorem Lineage.moves (lineage : first.Lineage log scene) : first.Moves scene := by
  induction lineage with
  | refl => exact .refl
  | moved _ move _ ih => exact ih.tail move
  | made _ move _ ih => exact ih.tail move

theorem Lineage.trans (early : first.Lineage log scene) (late : scene.Lineage more later) :
    first.Lineage (log ++ more) later := by
  induction late with
  | refl =>
      rw [List.append_nil]
      exact early
  | moved _ move handles ih => exact ih.moved move handles
  | made _ move makes ih =>
      rw [← List.append_assoc]
      exact ih.made move makes

theorem Move.lineage (move : scene.Move later) : ∃ log, scene.Lineage log later := by
  rcases move.effect with shrinks | ⟨_, makes⟩ | ⟨_, ends⟩
  · exact ⟨_, Lineage.refl.moved move shrinks.next⟩
  · exact ⟨_, Lineage.refl.made move makes⟩
  · exact ⟨_, Lineage.refl.moved move (by rw [ends.forest])⟩

theorem Moves.lineage (moves : scene.Moves later) : ∃ log, scene.Lineage log later := by
  induction moves with
  | refl => exact ⟨_, .refl⟩
  | tail _ move ih =>
      obtain ⟨log, early⟩ := ih
      obtain ⟨more, late⟩ := move.lineage
      exact ⟨_, early.trans late⟩

/-- The handles of a session are those of what was made, and are on record with what it was made on. -/
structure Traced (scene : Scene) (log : List Creation) : Prop where
  handles : log.map Creation.handle = List.range scene.session.forest.handles.next
  known : ∀ creation ∈ log, ∃ kind resource, resource.sort = creation.sort ∧
    scene.session.forest.identity? creation.handle = some (kind, resource, creation.base)

theorem traced_start : start.Traced [] where
  handles := rfl
  known := by intro creation member; cases member

theorem Traced.lt_next (traced : scene.Traced log) {creation : Creation} (member : creation ∈ log) :
    creation.handle < scene.session.forest.handles.next := by
  rw [← List.mem_range, ← traced.handles]
  exact List.mem_map_of_mem member

theorem Traced.sheds (traced : scene.Traced log) (early : scene.session.forest.Recorded)
    (late : later.session.forest.Recorded) (sheds : scene.session.forest.Sheds later.session.forest) :
    later.Traced log where
  handles := by rw [sheds.next, traced.handles]
  known creation member := by
    obtain ⟨kind, resource, sort, known⟩ := traced.known creation member
    exact ⟨kind, resource, sort, sheds.identity? early late known⟩

theorem Traced.makes {creation : Creation} (traced : scene.Traced log) (early : scene.session.forest.Recorded)
    (late : later.session.forest.Recorded) (makes : scene.session.Makes creation later.session) :
    later.Traced (log ++ [creation]) := by
  obtain ⟨next, kind, resource, sort, sheds⟩ := makes.founds
  have made := early.make kind resource creation.base
  have identity := scene.session.forest.identity?_make kind resource creation.base
  constructor
  · rw [makes.next, List.range_succ, List.map_append, traced.handles, List.map_singleton, next]
  · intro other member
    rcases List.mem_append.1 member with old | new
    · obtain ⟨its, held, same, known⟩ := traced.known other old
      refine ⟨its, held, same, sheds.identity? made late ?_⟩
      rw [identity, if_neg (Nat.ne_of_lt (traced.lt_next old)), known]
    · cases List.mem_singleton.1 new
      refine ⟨kind, resource, sort, sheds.identity? made late ?_⟩
      rw [identity, if_pos next]

theorem Lineage.traced (lineage : start.Lineage log scene) : scene.Traced log := by
  induction lineage with
  | refl => exact traced_start
  | moved lineage move handles ih =>
      have reached : Reached _ := lineage.moves
      have early := reached.owned.intact.recorded
      have late := (reached.move move).owned.intact.recorded
      rcases move.effect with shrinks | ⟨_, makes⟩ | ⟨_, ends⟩
      · exact ih.sheds early late (shrinks.sheds rfl)
      · exact absurd (makes.next.symm.trans handles) (Nat.succ_ne_self _)
      · exact ⟨ends.forest ▸ ih.handles, ends.forest ▸ ih.known⟩
  | made lineage move makes ih =>
      have reached : Reached _ := lineage.moves
      exact ih.makes reached.owned.intact.recorded (reached.move move).owned.intact.recorded makes

/-- Whatever is on record of a handle, that was made. -/
theorem Traced.of_identity? (traced : scene.Traced log) (recorded : scene.session.forest.Recorded) {handle : Nat}
    {kind : Bytes} {resource : Resource} {base : Option Nat}
    (known : scene.session.forest.identity? handle = some (kind, resource, base)) :
    { sort := resource.sort, handle, base } ∈ log := by
  have made := (recorded.made_iff handle).2 ⟨_, known⟩
  rw [← List.mem_range, ← traced.handles] at made
  obtain ⟨⟨sort, _, root⟩, member, rfl⟩ := List.mem_map.mp made
  obtain ⟨_, held, same, its⟩ := traced.known _ member
  dsimp only at known same its
  rw [known] at its
  cases its
  cases same
  exact member

end Scene

end PubSub
