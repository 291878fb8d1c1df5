import PubSub.Proofs.Calls.Queues
import PubSub.Proofs.Initialisation

/-!
Endpoints that were initialised.  A call that initialises one is answered by the fault that it fails with, or puts what
was registered under its name; an endpoint that is there tells its topic as long as its context runs.
-/

namespace PubSub

namespace Workspace

variable {workspace : Workspace} {name : String} {node : Option String} {support : Option TypeSupport}
  {topic : Option Bytes} {options : Option Qos} {changed : Middleware} {fault : Fault}

theorem step_initPublisher_error
    (failed : workspace.middleware.initPublisher (slot workspace.publishers (some name)) (slot workspace.nodes node)
      support topic options = (.error fault, changed)) :
    workspace.step (.initPublisher (some name) node support topic options) =
      (.status fault.status, workspace.withMiddleware changed) := by
  unfold step
  dsimp only
  rw [failed]
  rfl

theorem step_initPublisher_ok {state : PublisherState}
    (made : workspace.middleware.initPublisher (slot workspace.publishers (some name)) (slot workspace.nodes node)
      support topic options = (.ok state, changed)) :
    workspace.step (.initPublisher (some name) node support topic options) =
      (.status .ok,
        { workspace with
          middleware := changed
          publishers := workspace.publishers.set name state
          publisherKinds := workspace.publisherKinds.set name state.kind }) := by
  unfold step
  dsimp only
  rw [made]
  rfl

theorem answer_publisherInfo {state : PublisherState} {held : PublisherEnd}
    (found : workspace.publishers.get? name = some state)
    (endpoint : workspace.middleware.transport.publishers.get? state.endpoint = some held) :
    (workspace.step (.publisherInfo (some name))).1 =
      .endpoint (workspace.middleware.transport.isValid held.context) (some state.topicName) := by
  unfold step
  dsimp only
  rw [validPublisher?_slot found endpoint, slot_eq found]
  cases workspace.middleware.transport.isValid held.context <;> rfl

theorem publisherInfo_of_free (free : workspace.publishers.get? name = none) :
    (workspace.step (.publisherInfo (some name))).1 = .endpoint false none := by
  unfold step
  dsimp only
  rw [slot_eq free]
  rfl

theorem step_initSubscription_error
    (failed : workspace.middleware.initSubscription (slot workspace.subscriptions (some name))
      (slot workspace.nodes node) support topic options = (.error fault, changed)) :
    workspace.step (.initSubscription (some name) node support topic options) =
      (.status fault.status, workspace.withMiddleware changed) := by
  unfold step
  dsimp only
  rw [failed]
  rfl

theorem step_initSubscription_ok {state : SubscriptionState}
    (made : workspace.middleware.initSubscription (slot workspace.subscriptions (some name))
      (slot workspace.nodes node) support topic options = (.ok state, changed)) :
    workspace.step (.initSubscription (some name) node support topic options) =
      (.status .ok,
        { workspace with
          middleware := changed
          subscriptions := workspace.subscriptions.set name state
          subscriptionKinds := workspace.subscriptionKinds.set name state.kind }) := by
  unfold step
  dsimp only
  rw [made]
  rfl

theorem answer_subscriptionInfo {state : SubscriptionState} {held : SubscriberEnd}
    (found : workspace.subscriptions.get? name = some state)
    (endpoint : workspace.middleware.transport.subscribers.get? state.endpoint = some held) :
    (workspace.step (.subscriptionInfo (some name))).1 =
      .endpoint (workspace.middleware.transport.isValid held.context) (some state.topicName) := by
  unfold step
  dsimp only
  rw [validSubscription?_slot found endpoint, slot_eq found]
  cases workspace.middleware.transport.isValid held.context <;> rfl

theorem subscriptionInfo_of_free (free : workspace.subscriptions.get? name = none) :
    (workspace.step (.subscriptionInfo (some name))).1 = .endpoint false none := by
  unfold step
  dsimp only
  rw [slot_eq free]
  rfl

end Workspace

end PubSub
