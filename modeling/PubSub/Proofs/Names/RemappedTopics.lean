import PubSub.Proofs.Calls.Initialised
import PubSub.Proofs.Client.Refusals
import PubSub.Proofs.Names.Remapping

/-!
Remapped topics of endpoints.  A publisher or a subscription of a node gets the topic that the map of its rules makes of
the one that is asked for, and tells so; where there is none, it is not made.
-/

namespace PubSub

open Name (Owner Remap Kind)

namespace Middleware

variable {middleware : Middleware} {slot : Option (Slot NodeState)} {state : NodeState}

def rulesOf (middleware : Middleware) (state : NodeState) : List Remap :=
  if state.useArguments then (middleware.transport.arguments state.context).remaps else []

theorem toOption_resolveTopic (middleware : Middleware) (state : NodeState) (topic : Bytes) :
    (middleware.resolveTopic state topic).1.toOption = state.owner.renamed? (middleware.rulesOf state) topic := by
  rw [← Owner.toOption_resolve]
  unfold resolveTopic rulesOf
  dsimp only
  cases (state.owner.resolve _ topic).result <;> rfl

theorem initPublisher_eq (valid : middleware.validNode? slot = some state) (kind : MessageKind) (topic : Bytes)
    (qos : Qos) :
    middleware.initPublisher (some none) slot (some (.complete kind)) (some topic) (some qos) =
      match middleware.resolveTopic state topic.beforeNul with
      | (.error fault, resolved) => (.error fault, resolved)
      | (.ok topicName, resolved) =>
          (.ok (resolved.registerPublisher topicName kind qos.resolve state.context).1,
            (resolved.registerPublisher topicName kind qos.resolve state.context).2) := by
  unfold initPublisher
  dsimp only [TypeSupport.kind?]
  rw [valid]
  rfl

theorem initSubscription_eq (valid : middleware.validNode? slot = some state) (kind : MessageKind) (topic : Bytes)
    (qos : Qos) :
    middleware.initSubscription (some none) slot (some (.complete kind)) (some topic) (some qos) =
      match middleware.resolveTopic state topic.beforeNul with
      | (.error fault, resolved) => (.error fault, resolved)
      | (.ok topicName, resolved) =>
          (.ok (resolved.registerSubscription topicName kind qos.resolve state.context).1,
            (resolved.registerSubscription topicName kind qos.resolve state.context).2) := by
  unfold initSubscription
  dsimp only [TypeSupport.kind?]
  rw [valid]
  rfl

end Middleware

namespace Workspace

variable {workspace : Workspace} {node name : String} {owner : Owner} {rules : List Remap} {full : Bytes}

/-- A node that can be used, of a name and a namespace, remaps its topics by some rules. -/
def RemapsBy (workspace : Workspace) (node : String) (owner : Owner) (rules : List Remap) : Prop :=
  ∃ state, workspace.nodes.get? node = some state ∧ state.owner = owner ∧ state.useArguments = true ∧
    workspace.middleware.transport.isValid state.context = true ∧
    (workspace.middleware.transport.arguments state.context).remaps = rules

def publisherAnswers (workspace : Workspace) (name node : String) (kind : MessageKind) (topic : Bytes) (qos : Qos) :
    Answer × Answer :=
  let (answer, after) :=
    workspace.step (.initPublisher (some name) (some node) (some (.complete kind)) (some topic) (some qos))
  (answer, (after.step (.publisherInfo (some name))).1)

/-- What is answered where a subscription is made on a node, and what is then told of the subscription. -/
def subscriptionAnswers (workspace : Workspace) (name node : String) (kind : MessageKind) (topic : Bytes) (qos : Qos) :
    Answer × Answer :=
  let (answer, after) :=
    workspace.step (.initSubscription (some name) (some node) (some (.complete kind)) (some topic) (some qos))
  (answer, (after.step (.subscriptionInfo (some name))).1)

def topicAnswers : Option Bytes → Answer × Answer
  | some full => (.status .ok, .endpoint true (some full))
  | none => (.status .topicNameInvalid, .endpoint false none)

/-- An endpoint that is made for the topic that a resolution gives, or refused for its fault, is answered as that topic. -/
theorem topicAnswers_of_resolution {state : NodeState} {topic : Bytes} {answers : Answer × Answer}
    (refused : ∀ fault resolved, workspace.middleware.resolveTopic state topic = (.error fault, resolved) →
      answers = (.status fault.status, .endpoint false none))
    (made : ∀ topicName resolved, workspace.middleware.resolveTopic state topic = (.ok topicName, resolved) →
      resolved.transport = workspace.middleware.transport →
        answers = (.status .ok, .endpoint true (some topicName))) :
    answers = topicAnswers (state.owner.renamed? (workspace.middleware.rulesOf state) topic) := by
  have renamed := workspace.middleware.toOption_resolveTopic state topic
  have transport := workspace.middleware.resolveTopic_transport state topic
  rw [← renamed]
  rcases resolution : workspace.middleware.resolveTopic state topic with ⟨fault | topicName, resolved⟩
  · rw [refused fault resolved resolution, Middleware.status_of_resolveTopic (congrArg Prod.fst resolution)]
    rfl
  · rw [resolution] at transport
    exact made topicName resolved resolution transport

theorem publisherAnswers_eq {state : NodeState} (found : workspace.nodes.get? node = some state)
    (runs : workspace.middleware.transport.isValid state.context = true)
    (free : workspace.publishers.get? name = none) (kind : MessageKind) (topic : Bytes) (qos : Qos) :
    workspace.publisherAnswers name node kind topic qos =
      topicAnswers (state.owner.renamed? (workspace.middleware.rulesOf state) topic.beforeNul) := by
  have asked := Middleware.initPublisher_eq ((validNode?_slot found).trans (if_pos runs)) kind topic qos
  rw [← slot_eq free] at asked
  unfold publisherAnswers
  refine topicAnswers_of_resolution (fun fault resolved failed => ?_) (fun topicName resolved given transport => ?_)
  · rw [failed] at asked
    rw [step_initPublisher_error asked]
    exact congrArg (Prod.mk _) (publisherInfo_of_free free)
  · rw [given] at asked
    have there := workspace.publishers.get?_set name name
      (resolved.registerPublisher topicName kind qos.resolve state.context).1
    have inserted := resolved.transport.publishers.get?_insert
      { qos := qos.resolve, context := state.context, history := [] } resolved.transport.publishers.next
    have running : resolved.transport.isValid state.context = true := transport ▸ runs
    rw [step_initPublisher_ok asked]
    refine congrArg (Prod.mk _)
      ((answer_publisherInfo (there.trans (if_pos rfl)) (inserted.trans (if_pos rfl))).trans ?_)
    exact congrArg (Answer.endpoint · (some topicName)) running

theorem subscriptionAnswers_eq {state : NodeState} (found : workspace.nodes.get? node = some state)
    (runs : workspace.middleware.transport.isValid state.context = true)
    (free : workspace.subscriptions.get? name = none) (kind : MessageKind) (topic : Bytes) (qos : Qos) :
    workspace.subscriptionAnswers name node kind topic qos =
      topicAnswers (state.owner.renamed? (workspace.middleware.rulesOf state) topic.beforeNul) := by
  have asked := Middleware.initSubscription_eq ((validNode?_slot found).trans (if_pos runs)) kind topic qos
  rw [← slot_eq free] at asked
  unfold subscriptionAnswers
  refine topicAnswers_of_resolution (fun fault resolved failed => ?_) (fun topicName resolved given transport => ?_)
  · rw [failed] at asked
    rw [step_initSubscription_error asked]
    exact congrArg (Prod.mk _) (subscriptionInfo_of_free free)
  · rw [given] at asked
    have there := workspace.subscriptions.get?_set name name
      (resolved.registerSubscription topicName kind qos.resolve state.context).1
    have added := (Transport.addSubscriber_ends resolved.transport
      (resolved.pruneGraph.topic (Middleware.topicKey topicName qos.resolve.plainTopic kind)) qos.resolve
      state.context).2 resolved.transport.subscribers.next
    have contexts := (Middleware.registerSubscription_transport resolved topicName kind qos.resolve
      state.context).2.contexts
    have running : (resolved.registerSubscription topicName kind qos.resolve
        state.context).2.transport.isValid state.context = true := by
      unfold Transport.isValid at runs ⊢
      rw [contexts]
      exact transport ▸ runs
    rw [step_initSubscription_ok asked]
    refine congrArg (Prod.mk _)
      ((answer_subscriptionInfo (there.trans (if_pos rfl)) (added.trans (if_pos rfl))).trans ?_)
    exact congrArg (Answer.endpoint · (some topicName)) running

theorem RemapsBy.publisherAnswers_eq (remaps : workspace.RemapsBy node owner rules)
    (free : workspace.publishers.get? name = none) (kind : MessageKind) (topic : Bytes) (qos : Qos) :
    workspace.publisherAnswers name node kind topic qos = topicAnswers (owner.renamed? rules topic.beforeNul) := by
  obtain ⟨state, found, rfl, uses, runs, rfl⟩ := remaps
  rw [workspace.publisherAnswers_eq found runs free, Middleware.rulesOf, if_pos uses]

theorem RemapsBy.subscriptionAnswers_eq (remaps : workspace.RemapsBy node owner rules)
    (free : workspace.subscriptions.get? name = none) (kind : MessageKind) (topic : Bytes) (qos : Qos) :
    workspace.subscriptionAnswers name node kind topic qos = topicAnswers (owner.renamed? rules topic.beforeNul) := by
  obtain ⟨state, found, rfl, uses, runs, rfl⟩ := remaps
  rw [workspace.subscriptionAnswers_eq found runs free, Middleware.rulesOf, if_pos uses]

/-- Rules are a finite map on full names, which is applied once where a node makes an endpoint. -/
structure RemapsOnce (workspace : Workspace) (node : String) (owner : Owner) (rules : List Remap) : Prop where
  publishers : ∀ name, workspace.publishers.get? name = none → ∀ kind topic qos,
    workspace.publisherAnswers name node kind topic qos = topicAnswers (owner.renamed? rules topic.beforeNul)
  subscriptions : ∀ name, workspace.subscriptions.get? name = none → ∀ kind topic qos,
    workspace.subscriptionAnswers name node kind topic qos = topicAnswers (owner.renamed? rules topic.beforeNul)
  unexpanded : ∀ topic, owner.expansion? topic = none → owner.renamed? rules topic = none
  /-- The first rule whose source expands as the topic does gives its target, which need not expand. -/
  mapped : ∀ front rule back topic full, rules = front ++ rule :: back → owner.expansion? topic = some full →
    owner.expansion? rule.source = some full → (∀ earlier ∈ front, owner.expansion? earlier.source ≠ some full) →
      owner.renamed? rules topic = owner.expansion? rule.target
  unmapped : ∀ topic full, owner.expansion? topic = some full →
    (∀ rule ∈ rules, owner.expansion? rule.source ≠ some full) → owner.renamed? rules topic = some full
  ofExpansion : ∀ first second, owner.expansion? first = owner.expansion? second →
    owner.renamed? rules first = owner.renamed? rules second
  /-- Endpoints get the same topics under rules that say the same. -/
  rearranged : ∀ (other : Workspace) otherNode others, other.RemapsBy otherNode owner others →
    owner.Rearranged rules others → ∀ name kind topic qos,
      (workspace.publishers.get? name = none → other.publishers.get? name = none →
        workspace.publisherAnswers name node kind topic qos = other.publisherAnswers name otherNode kind topic qos) ∧
      (workspace.subscriptions.get? name = none → other.subscriptions.get? name = none →
        workspace.subscriptionAnswers name node kind topic qos =
          other.subscriptionAnswers name otherNode kind topic qos)
  swaps : ∀ first second here there, rules = [⟨first, second⟩, ⟨second, first⟩] →
    owner.expansion? first = some here → owner.expansion? second = some there → ∀ topic,
      (owner.expansion? topic = some here → owner.renamed? rules topic = some there) ∧
      (owner.expansion? topic = some there → owner.renamed? rules topic = some here)
  full : ∀ topic full, owner.renamed? rules topic = some full → full ∈ Kind.fullTopic.grammar

theorem remaps_once (remaps : workspace.RemapsBy node owner rules) : workspace.RemapsOnce node owner rules := by
  constructor
  · exact fun name free kind topic qos => remaps.publisherAnswers_eq free kind topic qos
  · exact fun name free kind topic qos => remaps.subscriptionAnswers_eq free kind topic qos
  · intro topic fails
    unfold Owner.renamed?
    rw [fails, Option.bind_none]
  · rintro front rule back topic full rfl expands same others
    exact Owner.renamed?_of_first expands same others
  · exact fun topic full expands others => Owner.renamed?_of_none expands others
  · exact fun first second same => Owner.renamed?_congr same
  · intro other otherNode others also same name kind topic qos
    have equal := congrArg topicAnswers (same.renamed?_eq topic.beforeNul)
    refine ⟨fun free absent => ?_, fun free absent => ?_⟩
    · rw [remaps.publisherAnswers_eq free, also.publisherAnswers_eq absent, equal]
    · rw [remaps.subscriptionAnswers_eq free, also.subscriptionAnswers_eq absent, equal]
  · rintro first second here there rfl expands also topic
    obtain ⟨forth, back⟩ := Owner.renamed?_swap expands also
    exact ⟨fun same => (Owner.renamed?_congr (same.trans expands.symm)).trans forth,
      fun same => (Owner.renamed?_congr (same.trans also.symm)).trans back⟩
  · exact fun topic full renamed => Owner.renamed?_full renamed

/-- A node in a context whose arguments swap two topics. -/
def swapped : List Action :=
  [.initContext (some "context")
      (some (["--ros-args", "-r", "left:=right", "-r", "right:=left"].map (fun text => some (Bytes.ofString text)))) 5,
    .initNode (some "node") (some (Bytes.ofString "talker")) (some (Bytes.ofString "/")) (some "context") (some true)]

/-- Left becomes right, and right becomes left. -/
theorem remaps_once_swapped :
    (empty.run swapped).publisherAnswers "publisher" "node" .int64 (Bytes.ofString "left") Qos.standard =
        (.status .ok, .endpoint true (some (Bytes.ofString "/right"))) ∧
      (empty.run swapped).subscriptionAnswers "subscription" "node" .int64 (Bytes.ofString "/right") Qos.standard =
        (.status .ok, .endpoint true (some (Bytes.ofString "/left"))) := by
  let talker : Owner := ⟨Bytes.ofString "talker", Bytes.ofString "/"⟩
  have remaps : (empty.run swapped).RemapsBy "node" talker
      [⟨Bytes.ofString "left", Bytes.ofString "right"⟩, ⟨Bytes.ofString "right", Bytes.ofString "left"⟩] :=
    ⟨⟨talker, true, 0⟩, by decide +kernel, rfl, rfl, by decide +kernel, by decide +kernel⟩
  have once := remaps_once remaps
  have swaps := once.swaps _ _ (Bytes.ofString "/left") (Bytes.ofString "/right") rfl (by decide +kernel)
    (by decide +kernel)
  constructor
  · rw [once.publishers "publisher" (by decide +kernel)]
    exact congrArg topicAnswers ((swaps _).1 (by decide +kernel))
  · rw [once.subscriptions "subscription" (by decide +kernel)]
    exact congrArg topicAnswers ((swaps _).2 (by decide +kernel))

end Workspace

end PubSub
