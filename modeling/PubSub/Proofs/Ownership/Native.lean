import PubSub.Client.Session
import PubSub.Proofs.Endpoints
import PubSub.Proofs.Ownership.Identity

/-!
Handles and the resources of the middleware.  Contexts stand on their own, nodes on contexts, publishers and
subscriptions on nodes; then no finalizer fails, and the transport knows exactly the endpoints whose handles
are still there.
-/

namespace PubSub

namespace Resource

def context? : Resource → Option Nat
  | context slot => slot
  | _ => none

def publisher? : Resource → Option Nat
  | publisher slot => slot.map PublisherState.endpoint
  | _ => none

def subscription? : Resource → Option Nat
  | subscription slot => slot.map SubscriptionState.endpoint
  | _ => none

def close (resource : Resource) (middleware : Middleware) : Middleware :=
  match resource with
  | context (some number) => middleware.withTransport (middleware.transport.invalidate number)
  | publisher (some state) =>
      middleware.withTransport (middleware.transport.dropPublisher state.endpoint)
  | subscription (some state) =>
      middleware.withTransport (middleware.transport.dropSubscriber state.endpoint)
  | _ => middleware

end Resource

/-- What a resource stands on: a context on nothing, a node on a context, everything else on a node. -/
def Resource.Mounted (forest : Forest Resource) (parent : Option Nat) : Resource → Prop
  | .context slot => slot.isSome ∧ parent = none
  | .node slot => slot.isSome ∧ ∃ above kind context root, parent = some above ∧
      forest.identity? above = some (kind, .context (some context), root)
  | .publisher slot => slot.isSome ∧ ∃ above kind node root, parent = some above ∧
      forest.identity? above = some (kind, .node (some node), root)
  | .subscription slot => slot.isSome ∧ ∃ above kind node root, parent = some above ∧
      forest.identity? above = some (kind, .node (some node), root)

/-- Every resource stands, or stood, where it belongs. -/
def Attached (forest : Forest Resource) : Prop :=
  ∀ handle kind resource parent, forest.identity? handle = some (kind, resource, parent) →
    resource.Mounted forest parent

variable {forest later : Forest Resource} {outside : Nat → Nat}

private theorem nodeSlot_parent (balanced : forest.Balanced outside) {handle above : Nat}
    {held : Handle Resource} {kind : Bytes} {node : NodeState} {root : Option Nat}
    (found : forest.get? handle = some held) (parent : held.parent = some above)
    (known : forest.identity? above = some (kind, .node (some node), root)) :
    Session.nodeSlot (held.parent.bind forest.get?) = some (some node) := by
  obtain ⟨owner, there⟩ := balanced.exists_parent found parent
  rw [Forest.identity?_of_get? there, Option.some.injEq] at known
  rw [parent, Option.bind_some, there]
  obtain ⟨_, resource, _, _⟩ := owner
  simp only [Handle.content, Prod.mk.injEq] at known
  rw [known.2.1]
  rfl

/-- A finalizer does not fail where everything stands where it belongs. -/
theorem finalize_eq (balanced : forest.Balanced outside) (attached : Attached forest) {handle : Nat}
    {held : Handle Resource} (found : forest.get? handle = some held) (state : Middleware × Nat) :
    Session.finalize held (held.parent.bind forest.get?) state =
      (held.resource.close state.1, state.2) := by
  -- A finalizer fails only on an empty slot, or on an endpoint whose parent is no node.
  have mounted := attached handle _ _ _ (Forest.identity?_of_get? found)
  unfold Session.finalize Session.finiResource
  cases resource : held.resource with
  | context slot =>
      cases slot with
      | none => simp [resource, Resource.Mounted] at mounted
      | some number => rfl
  | node slot =>
      cases slot with
      | none => simp [resource, Resource.Mounted] at mounted
      | some node => rfl
  | publisher slot =>
      cases slot with
      | none => simp [resource, Resource.Mounted] at mounted
      | some publisher =>
          rw [resource] at mounted
          obtain ⟨_, above, kind, node, root, parent, known⟩ := mounted
          dsimp only
          rw [nodeSlot_parent balanced found parent known]
          rfl
  | subscription slot =>
      cases slot with
      | none => simp [resource, Resource.Mounted] at mounted
      | some subscription =>
          rw [resource] at mounted
          obtain ⟨_, above, kind, node, root, parent, known⟩ := mounted
          dsimp only
          rw [nodeSlot_parent balanced found parent known]
          rfl

def closeAll (chain : List (Nat × Handle Resource)) (middleware : Middleware) : Middleware :=
  chain.foldl (fun current entry => entry.2.resource.close current) middleware

theorem foldl_finalize (balanced : forest.Balanced outside) (attached : Attached forest)
    (chain : List (Nat × Handle Resource))
    (held : ∀ entry ∈ chain, forest.get? entry.1 = some entry.2) (middleware : Middleware)
    (faults : Nat) :
    chain.foldl
        (fun current entry =>
          Session.finalize entry.2 (entry.2.parent.bind forest.get?) current)
        (middleware, faults) =
      (closeAll chain middleware, faults) := by
  induction chain generalizing middleware with
  | nil => rfl
  | cons entry rest ih =>
      rw [List.foldl_cons, finalize_eq balanced attached (held entry List.mem_cons_self)]
      exact ih (fun other member => held other (List.mem_cons_of_mem entry member)) _

namespace Transport

theorem isValid_invalidate (transport : Transport) (context other : Nat) :
    (transport.invalidate context).isValid other =
      (decide (other ≠ context) && transport.isValid other) := by
  unfold isValid invalidate
  rw [Arena.get?_modify]
  by_cases same : other = context
  · subst other
    cases transport.contexts.get? context <;> simp
  · simp [same]

end Transport

structure Closed (before after : Transport) (resources : List Resource) : Prop where
  publishers : ∀ index, after.publishers.contains index = true ↔
    before.publishers.contains index = true ∧ ∀ resource ∈ resources, resource.publisher? ≠ some index
  subscribers : ∀ index, after.subscribers.contains index = true ↔
    before.subscribers.contains index = true ∧
      ∀ resource ∈ resources, resource.subscription? ≠ some index
  contexts : ∀ index, after.isValid index = true ↔
    before.isValid index = true ∧ ∀ resource ∈ resources, resource.context? ≠ some index
  nextPublisher : after.publishers.next = before.publishers.next
  nextSubscriber : after.subscribers.next = before.subscribers.next
  nextContext : after.contexts.next = before.contexts.next

theorem Closed.nil (transport : Transport) : Closed transport transport [] := by
  constructor <;> simp

theorem Closed.cons {first second third : Transport} {resource : Resource} {rest : List Resource}
    (early : Closed first second [resource]) (late : Closed second third rest) :
    Closed first third (resource :: rest) := by
  constructor
  · intro index
    rw [late.publishers, early.publishers, List.forall_mem_singleton, List.forall_mem_cons, and_assoc]
  · intro index
    rw [late.subscribers, early.subscribers, List.forall_mem_singleton, List.forall_mem_cons,
      and_assoc]
  · intro index
    rw [late.contexts, early.contexts, List.forall_mem_singleton, List.forall_mem_cons, and_assoc]
  · exact late.nextPublisher.trans early.nextPublisher
  · exact late.nextSubscriber.trans early.nextSubscriber
  · exact late.nextContext.trans early.nextContext

theorem Resource.closed_close (resource : Resource) (middleware : Middleware) :
    Closed middleware.transport (resource.close middleware).transport [resource] := by
  cases resource with
  | context slot =>
      cases slot with
      | none => constructor <;> simp [close, publisher?, subscription?, context?]
      | some number =>
          constructor
          · simp [close, publisher?, Middleware.withTransport, Transport.invalidate]
          · simp [close, subscription?, Middleware.withTransport, Transport.invalidate]
          · intro index
            simp only [close, context?, Middleware.withTransport, Transport.isValid_invalidate,
              Bool.and_eq_true, decide_eq_true_eq, List.forall_mem_singleton, ne_eq,
              Option.some.injEq]
            exact and_comm.trans (and_congr_right (fun _ => not_congr eq_comm))
          · rfl
          · rfl
          · rfl
  | node slot => constructor <;> simp [close, publisher?, subscription?, context?]
  | publisher slot =>
      cases slot with
      | none => constructor <;> simp [close, publisher?, subscription?, context?]
      | some state =>
          constructor
          · intro index
            simp only [close, publisher?, Middleware.withTransport, Transport.contains_dropPublisher,
              Bool.and_eq_true, decide_eq_true_eq, List.forall_mem_singleton, ne_eq,
              Option.map_some, Option.some.injEq]
            exact and_comm.trans (and_congr_right (fun _ => not_congr eq_comm))
          · simp [close, subscription?, Middleware.withTransport]
          · simp [close, context?, Middleware.withTransport, Transport.isValid]
          · simp [close, Middleware.withTransport]
          · simp [close, Middleware.withTransport]
          · simp [close, Middleware.withTransport]
  | subscription slot =>
      cases slot with
      | none => constructor <;> simp [close, publisher?, subscription?, context?]
      | some state =>
          constructor
          · simp [close, publisher?, Middleware.withTransport]
          · intro index
            simp only [close, subscription?, Middleware.withTransport,
              Transport.contains_dropSubscriber, Bool.and_eq_true, decide_eq_true_eq,
              List.forall_mem_singleton, ne_eq, Option.map_some, Option.some.injEq]
            exact and_comm.trans (and_congr_right (fun _ => not_congr eq_comm))
          · simp [close, context?, Middleware.withTransport, Transport.isValid]
          · simp [close, Middleware.withTransport]
          · simp [close, Middleware.withTransport]
          · simp [close, Middleware.withTransport]

theorem closed_closeAll (chain : List (Nat × Handle Resource)) (middleware : Middleware) :
    Closed middleware.transport (closeAll chain middleware).transport
      (chain.map (fun entry => entry.2.resource)) := by
  induction chain generalizing middleware with
  | nil => exact .nil _
  | cons entry rest ih => exact (entry.2.resource.closed_close middleware).cons (ih _)

end PubSub
