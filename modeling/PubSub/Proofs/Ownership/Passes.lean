import PubSub.Client.Loop
import PubSub.Proofs.Ownership.Creation

/-!
Passes keep owners.  A pass holds the nodes and subscriptions that it visits, which it found there, and lets go of them
in the end; in between callbacks may do what keeps owners.
-/

namespace PubSub

namespace Session

variable {session : Session} {handles nodes subscriptions : List Nat}

theorem Owned.reorder (owned : session.Owned handles nodes subscriptions)
    {nodes' subscriptions' : List Nat} (node : ∀ other, nodes'.count other = nodes.count other)
    (subscription : ∀ other, subscriptions'.count other = subscriptions.count other) :
    session.Owned handles nodes' subscriptions' := by
  refine owned.shift rfl rfl rfl rfl rfl (fun _ => rfl) (fun other => ?_) (fun other => ?_)
  · rw [node]
  · rw [subscription]

theorem Owned.retainSubscriptions (items : List Nat)
    (owned : session.Owned handles nodes subscriptions)
    (present : ∀ item ∈ items, session.subscriptions.contains item = true) :
    (items.foldl Session.retainSubscription session).Owned handles nodes (items ++ subscriptions) := by
  induction items generalizing session subscriptions with
  | nil => exact owned
  | cons item rest ih =>
      have here := (session.subscriptions.contains_iff item).1 (present item List.mem_cons_self)
      have others : ∀ other ∈ rest,
          (session.retainSubscription item).subscriptions.contains other = true := by
        intro other member
        unfold Session.retainSubscription
        rw [Arena.contains_modify]
        exact present other (List.mem_cons_of_mem item member)
      refine (ih (owned.retainSubscription here) others).reorder (fun _ => rfl) (fun other => ?_)
      rw [List.cons_append, count_cons_eq item other (rest ++ subscriptions), List.count_append,
        List.count_append, count_cons_eq item other subscriptions]
      omega

theorem Owned.releaseSubscriptions (items : List Nat)
    (owned : session.Owned handles nodes (items ++ subscriptions)) :
    (items.foldl Session.releaseSubscription session).Owned handles nodes subscriptions := by
  induction items generalizing session with
  | nil => exact owned
  | cons item rest ih => exact ih owned.releaseSubscription

theorem Owned.retainNodes (items : List Nat) (owned : session.Owned handles nodes subscriptions)
    (present : ∀ item ∈ items, session.nodes.contains item = true) :
    (items.foldl Session.retainNode session).Owned handles (items ++ nodes) subscriptions := by
  induction items generalizing session nodes with
  | nil => exact owned
  | cons item rest ih =>
      have here := (session.nodes.contains_iff item).1 (present item List.mem_cons_self)
      have others : ∀ other ∈ rest, (session.retainNode item).nodes.contains other = true := by
        intro other member
        unfold Session.retainNode
        rw [Arena.contains_modify]
        exact present other (List.mem_cons_of_mem item member)
      refine (ih (owned.retainNode here) others).reorder (fun other => ?_) (fun _ => rfl)
      rw [List.cons_append, count_cons_eq item other (rest ++ nodes), List.count_append,
        List.count_append, count_cons_eq item other nodes]
      omega

theorem Owned.releaseNodes (items : List Nat)
    (owned : session.Owned handles (items ++ nodes) subscriptions) :
    (items.foldl Session.releaseNode session).Owned handles nodes subscriptions := by
  induction items generalizing session with
  | nil => exact owned
  | cons item rest ih => exact ih owned.releaseNode

end Session

namespace Run

variable {session : Session}

theorem findSubscription_eq_some {name : String} {index : Nat} {subscription : SubscriptionObject}
    (found : (do
      let index ← session.subscriptionNames.get? name
      return (index, ← session.subscriptions.get? index)) = some (index, subscription)) :
    session.subscriptions.get? index = some subscription := by
  cases named : session.subscriptionNames.get? name with
  | none => simp [named] at found
  | some other =>
      cases there : session.subscriptions.get? other with
      | none => simp [named, there] at found
      | some held =>
          simp only [named, there, bind_pure_comp, Option.bind_eq_bind, Option.bind_some,
            Option.map_eq_map, Option.map_some, Option.some.injEq, Prod.mk.injEq] at found
          rw [← found.1, ← found.2]
          exact there

theorem pruneSubscriptions_there {node : Nat} {live : List Nat} {after : Session}
    (outcome : (pruneSubscriptions node).run session = (.ok live, after)) :
    ∀ item ∈ live, after.subscriptions.contains item = true := by
  unfold pruneSubscriptions at outcome
  rw [run_changeGet, Prod.mk.injEq, Except.ok.injEq] at outcome
  obtain ⟨rfl, rfl⟩ := outcome
  cases session.nodes.get? node with
  | none => exact fun item member => nomatch member
  | some held => exact fun item member => (List.mem_filter.1 member).2

theorem pruneNodes_there {name : String} {live : List Nat} {after : Session}
    (outcome : (pruneNodes name).run session = (.ok live, after)) :
    ∀ item ∈ live, after.nodes.contains item = true := by
  unfold pruneNodes at outcome
  rw [run_changeGet, Prod.mk.injEq, Except.ok.injEq] at outcome
  obtain ⟨rfl, rfl⟩ := outcome
  cases session.executors.get? name with
  | none => exact fun item member => nomatch member
  | some executor => exact fun item member => (List.mem_filter.1 member).2

end Run

end PubSub
