import PubSub.Proofs.Client.Linked
import PubSub.Proofs.Client.Reasons

/-!
Contexts that were shut down.  A context runs when it is made, and ends when it is shut down or finalized, and at no other
time.  While there is a handle for it, it has ended only if it was shut down.
-/

namespace PubSub

namespace Transport

def Ended (transport : Transport) (context : Nat) : Prop :=
  ∃ state, transport.contexts.get? context = some state ∧ state.valid = false

variable {transport before after : Transport} {context : Nat}

theorem ended_iff : transport.Ended context ↔
    transport.contexts.contains context = true ∧ transport.isValid context = false := by
  rw [Arena.contains_iff]
  unfold Ended isValid
  constructor
  · rintro ⟨state, found, stopped⟩
    rw [found]
    exact ⟨⟨state, rfl⟩, stopped⟩
  · rintro ⟨⟨state, found⟩, stopped⟩
    rw [found] at stopped
    exact ⟨state, found, stopped⟩

theorem contains_of_isValid (runs : transport.isValid context = true) :
    transport.contexts.contains context = true := by
  rw [Arena.contains_iff]
  unfold isValid at runs
  split at runs
  · rename_i state found
    exact ⟨state, found⟩
  · cases runs

theorem Shrinks.keeps_ended (shrinks : before.Shrinks after) (ended : before.Ended context) :
    after.Ended context := by
  obtain ⟨known, stopped⟩ := ended_iff.1 ended
  exact ended_iff.2 ⟨(shrinks.contexts context).trans known, shrinks.ended context stopped⟩

theorem ended_congr (same : after.contexts = before.contexts) (context : Nat) :
    after.Ended context ↔ before.Ended context := by
  simp only [Ended, same]

theorem ended_openContext (transport : Transport) (arguments : Arguments) (context : Nat) :
    (transport.openContext arguments).2.Ended context ↔ transport.Ended context := by
  have inserted := transport.contexts.get?_insert { valid := true, arguments } context
  change (∃ state, (transport.contexts.insert _).2.get? context = some state ∧ _) ↔ _
  unfold Ended
  rw [inserted]
  by_cases new : context = transport.contexts.next
  · rw [if_pos new, new, transport.contexts.get?_next]
    constructor
    · rintro ⟨_, found, stopped⟩
      cases found
      cases stopped
    · rintro ⟨_, found, _⟩
      cases found
  · rw [if_neg new]

theorem ended_invalidate (transport : Transport) (number context : Nat) :
    (transport.invalidate number).Ended context ↔
      transport.Ended context ∨ context = number ∧ transport.contexts.contains number = true := by
  rw [ended_iff, ended_iff, isValid_invalidate]
  have kept : (transport.invalidate number).contexts.contains context =
      transport.contexts.contains context := Arena.contains_modify _ _ _ _
  rw [kept]
  by_cases same : context = number
  · subst same
    cases transport.contexts.contains context <;> simp
  · simp [same]

end Transport

namespace Session

variable {before after session : Session} {context : Nat}

theorem Shrinks.ended (shrinks : before.Shrinks after) (ended : after.middleware.transport.Ended context) :
    before.middleware.transport.Ended context ∨ after.Finalized context := by
  obtain ⟨known, stopped⟩ := Transport.ended_iff.1 ended
  rw [shrinks.middleware.transport.contexts] at known
  cases runs : before.middleware.transport.isValid context with
  | false => exact .inl (Transport.ended_iff.2 ⟨known, runs⟩)
  | true =>
      rcases shrinks.spares context runs with still | gone
      · cases stopped.symm.trans still
      · exact .inr gone

/-- A context that is shut down is the only one that ends. -/
theorem Ends.ended_iff {number : Nat} (ends : before.Ends number after) (context : Nat) :
    after.middleware.transport.Ended context ↔
      before.middleware.transport.Ended context ∨ context = number := by
  obtain ⟨middleware, granted, rfl⟩ := ends
  change (if before.middleware.transport.isValid number = true then
    (Except.ok (), before.middleware.withTransport (before.middleware.transport.invalidate number))
    else before.middleware.fail .contextAlreadyShutDown) = _ at granted
  split at granted
  · rename_i runs
    cases granted
    refine (before.middleware.transport.ended_invalidate number context).trans (or_congr_right ?_)
    exact ⟨And.left, fun same => ⟨same, Transport.contains_of_isValid runs⟩⟩
  · cases congrArg Prod.fst granted

/-- Making something ends nothing of its own accord, but it takes the name from what had it before. -/
theorem Makes.ended {creation : Creation} (makes : session.Makes creation after) :
    ∃ (made : Session) (sort : Owning) (name : String),
      (∀ context, made.middleware.transport.Ended context ↔ session.middleware.transport.Ended context) ∧
        made.forest.finalized = session.forest.finalized ∧
        after.middleware = (made.drop sort name).middleware ∧
        after.forest = (made.drop sort name).forest := by
  cases makes with
  | @context name arguments context middleware clean made =>
      obtain ⟨read, opened⟩ := Request.initContext_made made
      exact ⟨(({ session with middleware } : Session).makeHandle
        (Bytes.ofString "context") (.context (some context)) none).2, .context, name,
        opened ▸ session.middleware.transport.ended_openContext read, rfl, rfl, rfl⟩
  | @node name context handle nodeName space state middleware found cleanName cleanSpace made =>
      have kept := (Request.initNode_made made).1
      let handled := (({ session with middleware } : Session).makeHandle (Run.quotedKind "node" nodeName)
        (.node (some state)) (some handle)).2
      let shared := handled.retainHandle handle
      exact ⟨{ shared with nodes := (shared.nodes.insert
          { handle := session.forest.handles.next, context := handle, subscriptions := [], owners := 1 }).2 },
        .node, name, Transport.ended_congr (congrArg Transport.contexts kept), rfl, rfl, rfl⟩
  | @publisher name node index object kind topic qos state middleware found clean made =>
      obtain ⟨_, _, _, _, contexts, _⟩ := Request.initPublisher_made made
      exact ⟨(({ session with middleware } : Session).makeHandle
        (Run.quotedKind "publisher" topic) (.publisher (some state)) (some object.handle)).2,
        .publisher, name, Transport.ended_congr contexts, rfl, rfl, rfl⟩
  | @subscription name node index object kind topic qos registered script state middleware orderly
      found clean made =>
      obtain ⟨_, _, _, _, contexts, _⟩ := Request.initSubscription_made made
      let handled := (({ session with middleware } : Session).makeHandle
        (Run.quotedKind "subscription" topic) (.subscription (some state)) (some object.handle)).2
      let held : Session := { handled with subscriptions := (handled.subscriptions.insert
        { name, handle := session.forest.handles.next, kind, script, busy := false, owners := 1 }).2 }
      let known : Session :=
        if registered then
          { held with nodes := held.nodes.modify index (fun old =>
            { old with subscriptions := old.subscriptions ++ [session.subscriptions.next] }) }
        else held
      refine ⟨known, .subscription, name, ?_, ?_, ?_, ?_⟩
      · cases registered <;> exact Transport.ended_congr contexts
      · cases registered <;> rfl
      · cases registered <;> rfl
      · cases registered <;> rfl

end Session

/-- Among the moves that led to a scene, one shut a context down. -/
def Scene.ShutDown (scene : Scene) (context : Nat) : Prop :=
  ∃ before ended : Scene, before.Reached ∧ before.Move ended ∧
    before.session.Ends context ended.session ∧ ended.Moves scene

namespace Scene

variable {scene later : Scene} {context : Nat}

theorem ShutDown.move (shutDown : scene.ShutDown context) (move : scene.Move later) :
    later.ShutDown context := by
  obtain ⟨before, ended, reached, first, ends, moves⟩ := shutDown
  exact ⟨before, ended, reached, first, ends, moves.tail move⟩

/-- A move leaves what has ended as it is. -/
theorem Move.keeps_ended (move : scene.Move later)
    (ended : scene.session.middleware.transport.Ended context) :
    later.session.middleware.transport.Ended context := by
  rcases move.effect with shrinks | ⟨_, makes⟩ | ⟨_, ends⟩
  · exact shrinks.middleware.transport.keeps_ended ended
  · obtain ⟨made, sort, name, same, _, middleware, _⟩ := makes.ended
    rw [middleware]
    exact (made.shrinks_drop sort name).middleware.transport.keeps_ended ((same context).2 ended)
  · exact (ends.ended_iff context).2 (.inl ended)

/-- A move that ends a context shuts it down or finalizes it. -/
theorem Move.ended_cases (move : scene.Move later)
    (ended : later.session.middleware.transport.Ended context) :
    scene.session.middleware.transport.Ended context ∨ later.session.Finalized context ∨
      scene.session.Ends context later.session := by
  rcases move.effect with shrinks | ⟨_, makes⟩ | ⟨number, ends⟩
  · exact (shrinks.ended ended).imp_right .inl
  · obtain ⟨made, sort, name, same, _, middleware, forest⟩ := makes.ended
    rw [middleware] at ended
    rcases (made.shrinks_drop sort name).ended ended with old | gone
    · exact .inl ((same context).1 old)
    · exact .inr (.inl (by simpa only [Session.Finalized, forest] using gone))
  · rcases (ends.ended_iff context).1 ended with old | rfl
    · exact .inl old
    · exact .inr (.inr ends)

theorem Move.keeps_finalized (move : scene.Move later) (finalized : scene.session.Finalized context) :
    later.session.Finalized context := by
  rcases move.effect with shrinks | ⟨_, makes⟩ | ⟨_, ends⟩
  · exact finalized.mono shrinks
  · obtain ⟨made, sort, name, _, same, _, forest⟩ := makes.ended
    have kept : made.Finalized context := by simpa only [Session.Finalized, same] using finalized
    have left := kept.mono (made.shrinks_drop sort name)
    simpa only [Session.Finalized, forest] using left
  · obtain ⟨middleware, _, same⟩ := ends
    rw [same]
    exact finalized

theorem ShutDown.ended (shutDown : scene.ShutDown context) :
    scene.session.middleware.transport.Ended context := by
  obtain ⟨before, ended, _, _, ends, moves⟩ := shutDown
  induction moves with
  | refl => exact (ends.ended_iff context).2 (.inr rfl)
  | tail _ move ih => exact move.keeps_ended ih

/-- A context that has ended was shut down on the way, or finalized. -/
theorem Reached.shutDown_or_finalized (reached : scene.Reached)
    (ended : scene.session.middleware.transport.Ended context) :
    scene.ShutDown context ∨ scene.session.Finalized context := by
  refine reached.holds (fun scene => scene.session.middleware.transport.Ended context →
    scene.ShutDown context ∨ scene.session.Finalized context) (fun ended => ?_) ?_ ended
  · obtain ⟨_, found, _⟩ := ended
    cases found
  · intro before after there move ih ended
    rcases move.ended_cases ended with old | gone | ends
    · exact (ih old).imp (fun shutDown => shutDown.move move) move.keeps_finalized
    · exact .inr gone
    · exact .inl ⟨before, after, there, move, ends, .refl⟩

end Scene

namespace Session

variable {session : Session} {handle number : Nat} {handles nodes subscriptions : List Nat}

theorem Owned.not_finalized (owned : session.Owned handles nodes subscriptions)
    (slot : session.contextSlot handle = some number) : ¬ session.Finalized number := by
  rintro ⟨⟨gone, held⟩, member, resource⟩
  obtain ⟨_, found, known⟩ := contextSlot_eq_some slot
  have recorded := owned.intact.recorded
  have same := owned.intact.native.contexts.unique number gone handle _ _
    (recorded.identity?_of_mem member) known resource rfl
  have absent := (recorded.gone_iff gone).1 (List.mem_map_of_mem member)
  cases (same ▸ absent.2).symm.trans found

/-- Whether a context was shut down: the transport still knows it, but it no longer runs. -/
def isShutDown (session : Session) (context : Nat) : Bool :=
  match session.contextSlot context with
  | some number =>
      (session.middleware.transport.contexts.get? number).any (fun state => !state.valid)
  | none => false

theorem isShutDown_iff_ended : session.isShutDown handle = true ↔
    ∃ number, session.contextSlot handle = some number ∧
      session.middleware.transport.Ended number := by
  unfold isShutDown Transport.Ended
  cases session.contextSlot handle with
  | none => simp
  | some number => simp [Option.any_eq_true]

/-- A shutdown of the context of a handle was granted on the way to a session. -/
def WasShutDown (session : Session) (handle : Nat) : Prop :=
  ∃ (scene : Scene) (number : Nat), scene.session = session ∧
    session.contextSlot handle = some number ∧ scene.ShutDown number

theorem Reached.isShutDown_iff (reached : session.Reached) (handle : Nat) :
    session.isShutDown handle = true ↔ session.WasShutDown handle := by
  rw [isShutDown_iff_ended]
  constructor
  · rintro ⟨number, slot, ended⟩
    obtain ⟨scene, there, rfl⟩ := reached
    rcases there.shutDown_or_finalized ended with shutDown | finalized
    · exact ⟨scene, number, rfl, slot, shutDown⟩
    · exact absurd finalized (there.owned.not_finalized slot)
  · rintro ⟨scene, number, rfl, slot, shutDown⟩
    exact ⟨number, slot, shutDown.ended⟩

end Session

end PubSub
