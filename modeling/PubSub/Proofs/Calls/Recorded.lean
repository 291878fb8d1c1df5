import PubSub.Middleware.Subscription

/-!
The reason that a call records.  A call that fails records the wording of its own fault, whatever was there before; a
call that succeeds leaves the reason, or forgets it where it passed over a rule.
-/

namespace PubSub.Middleware

variable {Value : Type} {middleware between after : Middleware}

def Records (middleware : Middleware) (outcome : Outcome Value) : Prop :=
  match outcome.1 with
  | .ok _ => outcome.2.reason = middleware.reason ∨ outcome.2.reason = []
  | .error fault => outcome.2.reason = fault.message

theorem Records.reason_eq {outcome : Outcome Value} (records : middleware.Records outcome)
    {fault : Fault} (failed : outcome.1 = .error fault) : outcome.2.reason = fault.message := by
  unfold Records at records
  rw [failed] at records
  exact records

/-- Without a reason before a call there is none after it, unless it fails. -/
theorem Records.reason_eq_nil {outcome : Outcome Value} (records : middleware.Records outcome)
    (none : middleware.reason = []) {value : Value} (told : outcome.1 = .ok value) :
    outcome.2.reason = [] := by
  unfold Records at records
  rw [told] at records
  exact records.elim (fun same => same.trans none) id

def rules (middleware : Middleware) (node : NodeState) : List Name.Remap :=
  if node.useArguments then (middleware.transport.arguments node.context).remaps else []

def passesIdle (middleware : Middleware) (node : Option (Slot NodeState)) (topic : Option Bytes) : Bool :=
  match middleware.validNode? node, topic with
  | some node, some topic => (node.owner.resolve (middleware.rules node) topic.beforeNul).passedIdle
  | _, _ => false

def Leaves (middleware : Middleware) (forgets : Bool) (outcome : Outcome Value) : Prop :=
  match outcome.1 with
  | .ok _ => outcome.2.reason = if forgets then [] else middleware.reason
  | .error fault => outcome.2.reason = fault.message

theorem leaves_fail (middleware between : Middleware) (forgets : Bool) (fault : Fault) :
    middleware.Leaves forgets (between.fail fault : Outcome Value) := rfl

theorem leaves_ok {value : Value} (same : after.reason = middleware.reason) :
    middleware.Leaves false (.ok value, after) := same

theorem Leaves.records {forgets : Bool} {outcome : Outcome Value}
    (leaves : middleware.Leaves forgets outcome) : middleware.Records outcome := by
  unfold Leaves at leaves
  unfold Records
  cases told : outcome.1 with
  | error fault =>
      rw [told] at leaves
      exact leaves
  | ok value =>
      rw [told] at leaves
      cases forgets with
      | true => exact .inr leaves
      | false => exact .inl leaves

theorem leaves_validate (middleware : Middleware) (kind : Name.Kind) (name : Option Bytes)
    (wantsVerdict : Bool) : middleware.Leaves false (middleware.validate kind name wantsVerdict) := by
  unfold validate
  split
  · exact leaves_ok rfl
  · exact middleware.leaves_fail _ _ _

theorem leaves_expand {topic name space : Option Bytes} {wantsOutput : Bool} {outcome : Outcome Bytes}
    (expanded : middleware.expand topic name space wantsOutput = some outcome) :
    middleware.Leaves false outcome := by
  unfold expand at expanded
  split at expanded
  · dsimp only at expanded
    split at expanded
    · cases expanded
      exact leaves_ok rfl
    · cases expanded
      exact middleware.leaves_fail _ _ _
    · cases expanded
  · cases expanded
    exact middleware.leaves_fail _ _ _

theorem leaves_parseArguments (middleware : Middleware) (vector : Option (List (Option Bytes)))
    (count : Int) (wantsOutput : Bool) :
    middleware.Leaves false (middleware.parseArguments vector count wantsOutput) := by
  unfold parseArguments
  split
  · split
    · exact leaves_ok rfl
    · exact middleware.leaves_fail _ _ _
  · exact middleware.leaves_fail _ _ _

theorem leaves_initContext (middleware : Middleware) (slot : Option (Slot Nat))
    (vector : Option (List (Option Bytes))) (count : Int) :
    middleware.Leaves false (middleware.initContext slot vector count) := by
  unfold initContext
  split
  · exact middleware.leaves_fail _ _ _
  · exact middleware.leaves_fail _ _ _
  · split
    · exact middleware.leaves_fail _ _ _
    · exact leaves_ok rfl

theorem leaves_shutdownContext (middleware : Middleware) (slot : Option (Slot Nat)) :
    middleware.Leaves false (middleware.shutdownContext slot) := by
  unfold shutdownContext
  split
  · split
    · exact leaves_ok rfl
    · exact middleware.leaves_fail _ _ _
  · exact middleware.leaves_fail _ _ _

theorem leaves_finiContext (middleware : Middleware) (slot : Option (Slot Nat)) :
    middleware.Leaves false (middleware.finiContext slot) := by
  unfold finiContext
  split
  · exact middleware.leaves_fail _ _ _
  · exact leaves_ok rfl
  · exact leaves_ok rfl

theorem leaves_initNode (middleware : Middleware) (slot : Option (Slot NodeState))
    (name space : Option Bytes) (context : Option (Slot Nat)) (options : Option Bool) :
    middleware.Leaves false (middleware.initNode slot name space context options) := by
  unfold initNode
  split
  · split
    · exact middleware.leaves_fail _ _ _
    · split
      · exact middleware.leaves_fail _ _ _
      · split
        · dsimp only
          split
          · exact middleware.leaves_fail _ _ _
          · exact leaves_ok rfl
        · exact middleware.leaves_fail _ _ _
  · exact middleware.leaves_fail _ _ _

theorem leaves_finiNode (middleware : Middleware) (slot : Option (Slot NodeState)) :
    middleware.Leaves false (middleware.finiNode slot) := by
  unfold finiNode
  split
  · exact middleware.leaves_fail _ _ _
  · exact leaves_ok rfl

theorem leaves_resolveTopic (middleware : Middleware) (node : NodeState) (topic : Bytes) :
    middleware.Leaves (node.owner.resolve (middleware.rules node) topic).passedIdle
      (middleware.resolveTopic node topic) := by
  unfold resolveTopic rules
  dsimp only
  generalize node.owner.resolve _ topic = resolution
  cases resolution.result with
  | error fault => exact middleware.leaves_fail _ _ fault
  | ok full =>
      unfold Leaves
      cases resolution.passedIdle with
      | true => rfl
      | false => rfl

theorem Leaves.map {Other : Type} {forgets : Bool} {value : Value} {other : Other}
    (leaves : middleware.Leaves forgets (.ok value, between)) (same : after.reason = between.reason) :
    middleware.Leaves forgets (.ok other, after) := by
  unfold Leaves at leaves ⊢
  dsimp only at leaves ⊢
  rw [same]
  exact leaves

theorem leaves_initPublisher (middleware : Middleware) (slot : Option (Slot PublisherState))
    (node : Option (Slot NodeState)) (support : Option TypeSupport) (topic : Option Bytes)
    (options : Option Qos) :
    middleware.Leaves (middleware.passesIdle node topic)
      (middleware.initPublisher slot node support topic options) := by
  unfold initPublisher
  split
  · split
    · exact middleware.leaves_fail _ _ _
    · split
      · exact middleware.leaves_fail _ _ _
      · cases valid : middleware.validNode? node with
        | none => exact middleware.leaves_fail _ _ _
        | some owner =>
            rename_i name _ _ _ _ _
            have resolves := middleware.leaves_resolveTopic owner name.beforeNul
            unfold passesIdle
            rw [valid]
            dsimp only
            generalize middleware.resolveTopic owner _ = outcome at resolves ⊢
            rcases outcome with ⟨fault | full, resolved⟩
            · exact resolves
            · exact resolves.map rfl
  · exact middleware.leaves_fail _ _ _

theorem leaves_initSubscription (middleware : Middleware) (slot : Option (Slot SubscriptionState))
    (node : Option (Slot NodeState)) (support : Option TypeSupport) (topic : Option Bytes)
    (options : Option Qos) :
    middleware.Leaves (middleware.passesIdle node topic)
      (middleware.initSubscription slot node support topic options) := by
  unfold initSubscription
  split
  · split
    · exact middleware.leaves_fail _ _ _
    · split
      · exact middleware.leaves_fail _ _ _
      · cases valid : middleware.validNode? node with
        | none => exact middleware.leaves_fail _ _ _
        | some owner =>
            rename_i name _ _ _ _ _
            have resolves := middleware.leaves_resolveTopic owner name.beforeNul
            unfold passesIdle
            rw [valid]
            dsimp only
            generalize middleware.resolveTopic owner _ = outcome at resolves ⊢
            rcases outcome with ⟨fault | full, resolved⟩
            · exact resolves
            · exact resolves.map rfl
  · exact middleware.leaves_fail _ _ _

theorem leaves_finiPublisher (middleware : Middleware) (slot : Option (Slot PublisherState))
    (node : Option (Slot NodeState)) : middleware.Leaves false (middleware.finiPublisher slot node) := by
  unfold finiPublisher
  split
  · exact middleware.leaves_fail _ _ _
  · exact leaves_ok rfl
  · exact leaves_ok rfl
  · exact middleware.leaves_fail _ _ _

theorem leaves_finiSubscription (middleware : Middleware) (slot : Option (Slot SubscriptionState))
    (node : Option (Slot NodeState)) :
    middleware.Leaves false (middleware.finiSubscription slot node) := by
  unfold finiSubscription
  split
  · exact middleware.leaves_fail _ _ _
  · exact leaves_ok rfl
  · exact leaves_ok rfl
  · exact middleware.leaves_fail _ _ _

theorem leaves_publish (middleware : Middleware) (slot : Option (Slot PublisherState))
    (message : Option Layout) : middleware.Leaves false (middleware.publish slot message) := by
  unfold publish
  split
  · exact middleware.leaves_fail _ _ _
  · split
    · exact middleware.leaves_fail _ _ _
    · split
      · exact middleware.leaves_fail _ _ _
      · exact leaves_ok rfl

theorem leaves_take (middleware : Middleware) (slot : Option (Slot SubscriptionState))
    (message : Option Layout) : middleware.Leaves false (middleware.take slot message) := by
  unfold take
  split
  · exact middleware.leaves_fail _ _ _
  · split
    · exact middleware.leaves_fail _ _ _
    · split
      · exact leaves_ok rfl
      · dsimp only
        split
        · exact leaves_ok rfl
        · exact middleware.leaves_fail _ _ _

theorem leaves_subscriptionCount (middleware : Middleware) (slot : Option (Slot PublisherState))
    (wantsCount : Bool) : middleware.Leaves false (middleware.subscriptionCount slot wantsCount) := by
  unfold subscriptionCount
  split
  · exact middleware.leaves_fail _ _ _
  · split
    · exact leaves_ok rfl
    · exact middleware.leaves_fail _ _ _

theorem leaves_publisherCount (middleware : Middleware) (slot : Option (Slot SubscriptionState))
    (wantsCount : Bool) : middleware.Leaves false (middleware.publisherCount slot wantsCount) := by
  unfold publisherCount
  split
  · exact middleware.leaves_fail _ _ _
  · split
    · exact leaves_ok rfl
    · exact middleware.leaves_fail _ _ _

end PubSub.Middleware
