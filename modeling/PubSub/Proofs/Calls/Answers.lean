import PubSub.Middleware.Workspace
import PubSub.Proofs.Calls.Noted

/-!
What calls answer.  The answer of a call tells the outcome in the middleware and no more, and it does not depend
on the reason of an earlier failure, nor on what was counted before.
-/

namespace PubSub

namespace Middleware

variable (middleware : Middleware) (reason : Bytes) (ledger : Ledger)

@[simp] theorem isValid_recount (context : Nat) :
    (middleware.recount reason ledger).transport.isValid context =
      middleware.transport.isValid context := rfl

@[simp] theorem arguments_recount (context : Nat) :
    (middleware.recount reason ledger).transport.arguments context =
      middleware.transport.arguments context := rfl

theorem fst_validate_recount (kind : Name.Kind) (name : Option Bytes) (wantsVerdict : Bool) :
    ((middleware.recount reason ledger).validate kind name wantsVerdict).1 =
      (middleware.validate kind name wantsVerdict).1 := by
  unfold validate
  split <;> rfl

theorem fst_expand_recount (topic name space : Option Bytes) (wantsOutput : Bool) :
    ((middleware.recount reason ledger).expand topic name space wantsOutput).map Prod.fst =
      (middleware.expand topic name space wantsOutput).map Prod.fst := by
  unfold expand
  split
  · dsimp only
    split <;> rfl
  · rfl

theorem fst_parseArguments_recount (vector : Option (List (Option Bytes))) (count : Int)
    (wantsOutput : Bool) :
    ((middleware.recount reason ledger).parseArguments vector count wantsOutput).1 =
      (middleware.parseArguments vector count wantsOutput).1 := by
  unfold parseArguments
  split
  · split <;> rfl
  · rfl

theorem fst_initContext_recount (slot : Option (Slot Nat)) (vector : Option (List (Option Bytes)))
    (count : Int) :
    ((middleware.recount reason ledger).initContext slot vector count).1 =
      (middleware.initContext slot vector count).1 := by
  unfold initContext
  split
  · rfl
  · rfl
  · split <;> rfl

theorem fst_shutdownContext_recount (slot : Option (Slot Nat)) :
    ((middleware.recount reason ledger).shutdownContext slot).1 =
      (middleware.shutdownContext slot).1 := by
  unfold shutdownContext
  split
  · rename_i context
    rw [isValid_recount]
    by_cases runs : middleware.transport.isValid context
    · rw [if_pos runs, if_pos runs]
    · rw [if_neg runs, if_neg runs]
      rfl
  · rfl

theorem fst_finiContext_recount (slot : Option (Slot Nat)) :
    ((middleware.recount reason ledger).finiContext slot).1 = (middleware.finiContext slot).1 := by
  unfold finiContext
  split <;> rfl

theorem fst_initNode_recount (slot : Option (Slot NodeState)) (name space : Option Bytes)
    (context : Option (Slot Nat)) (options : Option Bool) :
    ((middleware.recount reason ledger).initNode slot name space context options).1 =
      (middleware.initNode slot name space context options).1 := by
  unfold initNode
  split
  · split
    · rfl
    · split
      · rfl
      · rename_i context
        rw [isValid_recount, arguments_recount]
        by_cases runs : middleware.transport.isValid context
        · rw [if_pos runs, if_pos runs]
          dsimp only
          split <;> rfl
        · rw [if_neg runs, if_neg runs]
          rfl
  · rfl

theorem fst_resolveTopic_recount (node : NodeState) (topic : Bytes) :
    ((middleware.recount reason ledger).resolveTopic node topic).1 =
      (middleware.resolveTopic node topic).1 := by
  unfold resolveTopic
  simp only [arguments_recount]
  split <;> rfl

theorem fst_initPublisher_recount (slot : Option (Slot PublisherState)) (node : Option (Slot NodeState))
    (support : Option TypeSupport) (topic : Option Bytes) (options : Option Qos) :
    ((middleware.recount reason ledger).initPublisher slot node support topic options).1 =
      (middleware.initPublisher slot node support topic options).1 := by
  have valid : (middleware.recount reason ledger).validNode? node = middleware.validNode? node := rfl
  unfold initPublisher
  rw [valid]
  split
  · rename_i name _
    split
    · rfl
    · split
      · rfl
      · split
        · rfl
        · rename_i owner _
          have resolved := middleware.fst_resolveTopic_recount reason ledger owner name.beforeNul
          have here := middleware.resolveTopic_transport owner name.beforeNul
          have there := (middleware.recount reason ledger).resolveTopic_transport owner name.beforeNul
          generalize (middleware.recount reason ledger).resolveTopic owner _ = first at *
          generalize middleware.resolveTopic owner _ = second at *
          obtain ⟨_ | _, changed⟩ := second <;> obtain ⟨_ | _, other⟩ := first
          all_goals cases resolved
          · rfl
          · dsimp only at here there
            unfold registerPublisher pruneGraph Transport.addPublisher
            dsimp only
            rw [here, there]
            rfl
  · rfl

theorem fst_initSubscription_recount (slot : Option (Slot SubscriptionState)) (node : Option (Slot NodeState))
    (support : Option TypeSupport) (topic : Option Bytes) (options : Option Qos) :
    ((middleware.recount reason ledger).initSubscription slot node support topic options).1 =
      (middleware.initSubscription slot node support topic options).1 := by
  have valid : (middleware.recount reason ledger).validNode? node = middleware.validNode? node := rfl
  unfold initSubscription
  rw [valid]
  split
  · rename_i name _
    split
    · rfl
    · split
      · rfl
      · split
        · rfl
        · rename_i owner _
          have resolved := middleware.fst_resolveTopic_recount reason ledger owner name.beforeNul
          have here := middleware.resolveTopic_transport owner name.beforeNul
          have there := (middleware.recount reason ledger).resolveTopic_transport owner name.beforeNul
          generalize (middleware.recount reason ledger).resolveTopic owner _ = first at *
          generalize middleware.resolveTopic owner _ = second at *
          obtain ⟨_ | _, changed⟩ := second <;> obtain ⟨_ | _, other⟩ := first
          all_goals cases resolved
          · rfl
          · dsimp only at here there
            unfold registerSubscription pruneGraph Transport.addSubscriber
            dsimp only
            rw [here, there]
            rfl
  · rfl

theorem fst_subscriptionCount_recount (slot : Option (Slot PublisherState)) (wantsCount : Bool) :
    ((middleware.recount reason ledger).subscriptionCount slot wantsCount).1 =
      (middleware.subscriptionCount slot wantsCount).1 := by
  have valid : (middleware.recount reason ledger).validPublisher? slot =
      middleware.validPublisher? slot := rfl
  unfold subscriptionCount
  rw [valid]
  split
  · rfl
  · split <;> rfl

theorem fst_publisherCount_recount (slot : Option (Slot SubscriptionState)) (wantsCount : Bool) :
    ((middleware.recount reason ledger).publisherCount slot wantsCount).1 =
      (middleware.publisherCount slot wantsCount).1 := by
  have valid : (middleware.recount reason ledger).validSubscription? slot =
      middleware.validSubscription? slot := rfl
  unfold publisherCount
  rw [valid]
  split
  · rfl
  · split <;> rfl

theorem fst_finiNode_recount (slot : Option (Slot NodeState)) :
    ((middleware.recount reason ledger).finiNode slot).1 = (middleware.finiNode slot).1 := by
  unfold finiNode
  split <;> rfl

theorem fst_finiPublisher_recount (slot : Option (Slot PublisherState))
    (node : Option (Slot NodeState)) :
    ((middleware.recount reason ledger).finiPublisher slot node).1 =
      (middleware.finiPublisher slot node).1 := by
  unfold finiPublisher
  split <;> rfl

theorem fst_finiSubscription_recount (slot : Option (Slot SubscriptionState))
    (node : Option (Slot NodeState)) :
    ((middleware.recount reason ledger).finiSubscription slot node).1 =
      (middleware.finiSubscription slot node).1 := by
  unfold finiSubscription
  split <;> rfl

end Middleware

namespace Workspace

variable (workspace : Workspace)

theorem answer_expand (topic name space : Option Bytes) (wantsOutput : Bool) :
    (workspace.step (.expand topic name space wantsOutput)).1 =
      ((workspace.middleware.expand topic name space wantsOutput).map Prod.fst).elim .endless
        (fun result => .expansion (statusOf result) (valueOf result)) := by
  unfold step
  dsimp only
  cases workspace.middleware.expand topic name space wantsOutput <;> rfl

theorem answer_initContext (context : Option String) (vector : Option (List (Option Bytes)))
    (count : Int) :
    (workspace.step (.initContext context vector count)).1 =
      .status (statusOf (workspace.middleware.initContext (slot workspace.contexts context) vector count).1) := by
  unfold step
  dsimp only
  generalize workspace.middleware.initContext (slot workspace.contexts context) vector count = outcome
  obtain ⟨_ | _, _⟩ := outcome <;> rfl

theorem answer_finiContext (context : Option String) :
    (workspace.step (.finiContext context)).1 =
      .status (statusOf (workspace.middleware.finiContext (slot workspace.contexts context)).1) := by
  unfold step
  dsimp only
  generalize workspace.middleware.finiContext (slot workspace.contexts context) = outcome
  obtain ⟨_ | _, _⟩ := outcome <;> rfl

theorem answer_initNode (node : Option String) (name space : Option Bytes) (context : Option String)
    (options : Option Bool) :
    (workspace.step (.initNode node name space context options)).1 =
      .status (statusOf (workspace.middleware.initNode (slot workspace.nodes node) name space
        (slot workspace.contexts context) options).1) := by
  unfold step
  dsimp only
  generalize workspace.middleware.initNode (slot workspace.nodes node) name space
    (slot workspace.contexts context) options = outcome
  obtain ⟨_ | _, _⟩ := outcome <;> rfl

theorem answer_finiNode (node : Option String) :
    (workspace.step (.finiNode node)).1 =
      .status (statusOf (workspace.middleware.finiNode (slot workspace.nodes node)).1) := by
  unfold step
  dsimp only
  generalize workspace.middleware.finiNode (slot workspace.nodes node) = outcome
  obtain ⟨_ | _, _⟩ := outcome <;> rfl

theorem answer_initPublisher (publisher node : Option String) (support : Option TypeSupport)
    (topic : Option Bytes) (options : Option Qos) :
    (workspace.step (.initPublisher publisher node support topic options)).1 =
      .status (statusOf (workspace.middleware.initPublisher (slot workspace.publishers publisher)
        (slot workspace.nodes node) support topic options).1) := by
  unfold step
  dsimp only
  generalize workspace.middleware.initPublisher (slot workspace.publishers publisher)
    (slot workspace.nodes node) support topic options = outcome
  obtain ⟨_ | _, _⟩ := outcome <;> rfl

theorem answer_finiPublisher (publisher node : Option String) :
    (workspace.step (.finiPublisher publisher node)).1 =
      .status (statusOf (workspace.middleware.finiPublisher (slot workspace.publishers publisher)
        (slot workspace.nodes node)).1) := by
  unfold step
  dsimp only
  generalize workspace.middleware.finiPublisher (slot workspace.publishers publisher)
    (slot workspace.nodes node) = outcome
  obtain ⟨_ | _, _⟩ := outcome <;> rfl

theorem answer_initSubscription (subscription node : Option String) (support : Option TypeSupport)
    (topic : Option Bytes) (options : Option Qos) :
    (workspace.step (.initSubscription subscription node support topic options)).1 =
      .status (statusOf (workspace.middleware.initSubscription (slot workspace.subscriptions subscription)
        (slot workspace.nodes node) support topic options).1) := by
  unfold step
  dsimp only
  generalize workspace.middleware.initSubscription (slot workspace.subscriptions subscription)
    (slot workspace.nodes node) support topic options = outcome
  obtain ⟨_ | _, _⟩ := outcome <;> rfl

theorem answer_finiSubscription (subscription node : Option String) :
    (workspace.step (.finiSubscription subscription node)).1 =
      .status (statusOf (workspace.middleware.finiSubscription (slot workspace.subscriptions subscription)
        (slot workspace.nodes node)).1) := by
  unfold step
  dsimp only
  generalize workspace.middleware.finiSubscription (slot workspace.subscriptions subscription)
    (slot workspace.nodes node) = outcome
  obtain ⟨_ | _, _⟩ := outcome <;> rfl

end Workspace

end PubSub
