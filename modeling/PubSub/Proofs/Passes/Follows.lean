import PubSub.Proofs.Passes.Keeping
import PubSub.Proofs.Passes.Visits

/-!
What a pass leaves as it is.  The session that follows has the same objects at the same places, visits the same
subscriptions in the same order, and has queues that are as they were or got shorter from the front; contexts run that
ran, and as many copies are still to be refused.
-/

namespace PubSub

theorem Ledger.refusals_copy {ledger after : Ledger} {kind : MessageKind} {source destination copied : Layout}
    (done : ledger.copy kind source destination = (some copied, after)) : after.refusals = ledger.refusals := by
  unfold copy at done
  split at done
  · cases done
  · obtain ⟨_, rfl⟩ := Prod.mk.inj done
    rfl

theorem SampleStore.refusals_release (store : SampleStore) (sample : Nat) :
    (store.release sample).ledger.refusals = store.ledger.refusals := by
  unfold release
  split
  · rfl
  · split <;> rfl

theorem Transport.endpoints_of_takeSample {transport taken : Transport} {endpoint sample : Nat}
    (took : transport.takeSample endpoint = some (sample, taken)) (other : Nat) {held : SubscriberEnd}
    (found : transport.subscribers.get? other = some held) :
    ∃ left, taken.subscribers.get? other = some left ∧ left.context = held.context ∧
      left.queue.waiting <:+ held.queue.waiting := by
  obtain ⟨own, queue, there, popped, rfl⟩ := takeSample_eq_some took
  have moved := transport.subscribers.get?_modify endpoint other (fun old => { old with queue })
  by_cases same : other = endpoint
  · subst same
    cases there.symm.trans found
    rw [if_pos rfl, found] at moved
    refine ⟨_, moved, rfl, ?_⟩
    rw [SampleQueue.waiting_of_pop popped]
    exact List.suffix_cons _ _
  · rw [if_neg same] at moved
    exact ⟨held, moved.trans found, rfl, List.suffix_refl _⟩

namespace Middleware

/-- Nothing but queues, what waits in them, and what is counted differs, and no queue has anything that it had not. -/
structure Drains (before after : Middleware) : Prop where
  runs : ∀ context, after.transport.isValid context = before.transport.isValid context
  endpoints : ∀ endpoint held, before.transport.subscribers.get? endpoint = some held →
    ∃ left, after.transport.subscribers.get? endpoint = some left ∧ left.context = held.context ∧
      left.queue.waiting <:+ held.queue.waiting
  refusals : after.ledger.refusals = before.ledger.refusals
  later : before.transport.store.Later after.transport.store
  sound : before.transport.Sound (fun _ => 0) → after.transport.Sound (fun _ => 0)

variable {middleware before between after : Middleware}

theorem Drains.refl (middleware : Middleware) : middleware.Drains middleware where
  runs _ := rfl
  endpoints _ held found := ⟨held, found, rfl, List.suffix_refl _⟩
  refusals := rfl
  later := .refl _
  sound := id

theorem Drains.trans (early : before.Drains between) (late : between.Drains after) : before.Drains after where
  runs context := (late.runs context).trans (early.runs context)
  endpoints endpoint held found := by
    obtain ⟨middle, there, same, fewer⟩ := early.endpoints endpoint held found
    obtain ⟨left, present, also, more⟩ := late.endpoints endpoint middle there
    exact ⟨left, present, also.trans same, more.trans fewer⟩
  refusals := late.refusals.trans early.refusals
  later := early.later.trans late.later
  sound sound := late.sound (early.sound sound)

theorem drains_withLedger (middleware : Middleware) {ledger : Ledger}
    (same : ledger.refusals = middleware.ledger.refusals) : middleware.Drains (middleware.withLedger ledger) where
  runs _ := rfl
  endpoints _ held found := ⟨held, found, rfl, List.suffix_refl _⟩
  refusals := same
  later := .of_eq rfl
  sound := id

theorem drains_take {slot : Option (Slot SubscriptionState)} {message filled : Option Layout}
    (told : middleware.take slot message = (.ok filled, after)) : middleware.Drains after := by
  obtain ⟨only, sound⟩ := middleware.reshares_take slot message
  rw [told] at only sound
  unfold take at told
  cases valid : middleware.validSubscription? slot with
  | none =>
      rw [valid] at told
      cases told
  | some state =>
      cases message with
      | none =>
          rw [valid] at told
          cases told
      | some layout =>
          rw [valid] at told
          dsimp only at told
          cases front : middleware.transport.takeSample state.endpoint with
          | none =>
              rw [front] at told
              cases told
              exact .refl _
          | some entry =>
              obtain ⟨sample, taken⟩ := entry
              rw [front] at told
              dsimp only at told
              generalize copied : taken.store.ledger.copy state.kind _ layout = outcome at told
              obtain ⟨_ | copy, ledger⟩ := outcome
              · cases told
              · cases told
                have same := Ledger.refusals_copy copied
                have endpoints := Transport.endpoints_of_takeSample front
                obtain ⟨_, _, _, _, rfl⟩ := Transport.takeSample_eq_some front
                exact ⟨fun _ => rfl, fun endpoint _ found => endpoints endpoint found,
                  (SampleStore.refusals_release _ sample).trans same, only.later, sound⟩

end Middleware

def SubscriptionObject.bare (held : SubscriptionObject) : SubscriptionObject :=
  { held with owners := 0 }

namespace Session

def listed (session : Session) (node : Nat) : Option (List Nat) :=
  (session.nodes.get? node).map session.liveSubscriptions

/-- The nodes that a pass of an executor comes to, if it is there. -/
def targets (session : Session) (name : String) : Option (List Nat) :=
  (session.executors.get? name).map session.liveNodes

/-- The subscriptions that a pass visits: those of each node in the order of their creation, node by node as added. -/
def visited (session : Session) (name : String) : List Nat :=
  ((session.targets name).getD []).flatMap (fun node => (session.listed node).getD [])

section

variable {session : Session}

theorem listed_of_found {node : Nat} {held : NodeObject} (found : session.nodes.get? node = some held) :
    (session.listed node).getD [] = session.liveSubscriptions held := by
  unfold listed
  rw [found]
  rfl

theorem listed_of_gone {node : Nat} (gone : session.nodes.get? node = none) :
    (session.listed node).getD [] = [] := by
  unfold listed
  rw [gone]
  rfl

theorem exists_of_mem_listed {node index : Nat} (member : index ∈ (session.listed node).getD []) :
    ∃ home held, session.nodes.get? node = some home ∧ index ∈ home.subscriptions ∧
      session.subscriptions.get? index = some held := by
  cases there : session.nodes.get? node with
  | none =>
      rw [listed_of_gone there] at member
      cases member
  | some home =>
      rw [listed_of_found there] at member
      obtain ⟨among, present⟩ := List.mem_filter.1 member
      obtain ⟨held, found⟩ := (session.subscriptions.contains_iff index).1 present
      exact ⟨home, held, rfl, among, found⟩

theorem visited_of_found {name : String} {executor : Executor}
    (found : session.executors.get? name = some executor) :
    session.visited name = (session.liveNodes executor).flatMap (fun node => (session.listed node).getD []) := by
  unfold visited targets
  rw [found]
  rfl

end

/-- The same objects at the same places, and queues that are as they were or got shorter. -/
structure Follows (before after : Session) : Prop where
  forest : after.forest = before.forest
  objects : ∀ index, (after.subscriptions.get? index).map SubscriptionObject.bare =
    (before.subscriptions.get? index).map SubscriptionObject.bare
  listed : ∀ node, after.listed node = before.listed node
  targets : ∀ name, after.targets name = before.targets name
  middleware : before.middleware.Drains after.middleware

variable {session before between after : Session}

theorem Follows.refl (session : Session) : session.Follows session :=
  ⟨rfl, fun _ => rfl, fun _ => rfl, fun _ => rfl, .refl _⟩

theorem Follows.trans (early : before.Follows between) (late : between.Follows after) : before.Follows after where
  forest := late.forest.trans early.forest
  objects index := (late.objects index).trans (early.objects index)
  listed node := (late.listed node).trans (early.listed node)
  targets name := (late.targets name).trans (early.targets name)
  middleware := early.middleware.trans late.middleware

theorem Follows.visited (follows : before.Follows after) (name : String) :
    after.visited name = before.visited name := by
  unfold Session.visited
  rw [follows.targets name, funext follows.listed]

theorem contains_of_bare {first second : Arena SubscriptionObject}
    (same : ∀ index, (first.get? index).map SubscriptionObject.bare =
      (second.get? index).map SubscriptionObject.bare) : first.contains = second.contains := by
  funext index
  have both := congrArg Option.isSome (same index)
  rw [Option.isSome_map, Option.isSome_map] at both
  exact both

theorem follows_withSubscriptions {subscriptions : Arena SubscriptionObject}
    (same : ∀ index, (subscriptions.get? index).map SubscriptionObject.bare =
      (session.subscriptions.get? index).map SubscriptionObject.bare) :
    session.Follows (session.withSubscriptions subscriptions) where
  forest := rfl
  objects := same
  listed node := by
    unfold Session.listed liveSubscriptions
    exact congrArg (fun contains => (session.nodes.get? node).map
      (fun held : NodeObject => held.subscriptions.filter contains)) (contains_of_bare same)
  targets _ := rfl
  middleware := .refl _

theorem follows_withNodes {nodes : Arena NodeObject}
    (same : ∀ node, (nodes.get? node).map session.liveSubscriptions = session.listed node) :
    session.Follows (session.withNodes nodes) where
  forest := rfl
  objects _ := rfl
  listed := same
  targets name := by
    have contains : nodes.contains = session.nodes.contains := by
      funext node
      have both := congrArg Option.isSome (same node)
      unfold Session.listed at both
      rw [Option.isSome_map, Option.isSome_map] at both
      exact both
    unfold Session.targets liveNodes
    exact congrArg (fun contains => (session.executors.get? name).map
      (fun executor : Executor => executor.nodes.filter contains)) contains
  middleware := .refl _

theorem follows_middleware {middleware : Middleware} (drains : session.middleware.Drains middleware) :
    session.Follows { session with middleware } :=
  ⟨rfl, fun _ => rfl, fun _ => rfl, fun _ => rfl, drains⟩

end Session

end PubSub
