import PubSub.Proofs.Delivery.Payload
import PubSub.Proofs.Client.Requests
import PubSub.Proofs.Names.FullTopics

/-!
Refusals: the statuses that requests fail with.  A request that is given resources that are initialised depends on one
context: if that does not run, the request has one certain status, and otherwise it has others.
-/

namespace PubSub

theorem Rule.status_of_parse {text : Bytes} {fault : Fault} (failed : Rule.parse text = .error fault) :
    fault.status = .invalidArgument := by
  unfold Rule.parse at failed
  split at failed
  · split at failed
    · cases failed
      rfl
    · cases failed
  · cases failed
    rfl

namespace Arguments

theorem status_of_readRules {arguments : List (Option Bytes)} {place : Place} {index : Nat}
    {fault : Fault} (failed : readRules place index arguments = .error fault) :
    fault.status = .invalidArgument := by
  induction arguments generalizing place index with
  | nil =>
      cases place with
      | afterFlag flag =>
          cases failed
          rfl
      | _ => cases failed
  | cons argument rest ih =>
      cases argument with
      | none => cases place <;> cases failed <;> rfl
      | some argument =>
          cases place with
          | outside => exact ih failed
          | inSection =>
              rw [readRules] at failed
              split at failed
              · exact ih failed
              · split at failed
                · exact ih failed
                · split at failed
                  · exact ih failed
                  · cases failed
                    rfl
          | afterFlag flag =>
              rw [readRules] at failed
              split at failed
              · rename_i malformed
                cases failed
                exact Rule.status_of_parse malformed
              · split at failed
                · rename_i later
                  cases failed
                  exact ih later
                · cases failed

theorem status_of_parse {vector : Option (List (Option Bytes))} {count : Int} {fault : Fault}
    (failed : parse vector count = .error fault) : fault.status = .invalidArgument := by
  unfold parse at failed
  split at failed
  · cases failed
    rfl
  · split at failed
    · split at failed
      · cases failed
        rfl
      · cases failed
    · dsimp only at failed
      unfold ofList at failed
      dsimp only at failed
      split at failed
      · rename_i read
        cases failed
        exact status_of_readRules read
      · cases failed

end Arguments

theorem Middleware.status_of_resolveTopic {middleware : Middleware} {node : NodeState} {topic : Bytes}
    {fault : Fault} (failed : (middleware.resolveTopic node topic).1 = .error fault) :
    fault.status = .topicNameInvalid := by
  unfold resolveTopic at failed
  dsimp only at failed
  split at failed
  · cases failed
  · rename_i rejected
    cases failed
    exact Name.Owner.status_of_resolve rejected

theorem Middleware.status_of_ownerFault? {owner : Name.Owner} {fault : Fault}
    (found : ownerFault? owner = some fault) :
    fault.status = .nodeInvalidName ∨ fault.status = .nodeInvalidNamespace := by
  unfold ownerFault? at found
  dsimp only at found
  split at found
  · cases found
    exact .inl rfl
  · split at found
    · cases found
      exact .inr rfl
    · cases found

theorem TextBuffer.length_copyFrom {destination source copied : TextBuffer}
    (copy : destination.copyFrom source = (true, copied)) : copied.contents.length = source.size := by
  unfold copyFrom assignFirst at copy
  split at copy
  · split at copy
    · rename_i none
      cases copy
      rw [contents_store, none]
      rfl
    · cases copy
  · cases copy
    rw [contents_store, List.length_append, List.length_take, List.length_replicate]
    omega

/-- What was copied over a message is a value of its kind, since a text beyond the bound is not copied. -/
theorem MessageKind.decode_of_copy {kind : MessageKind} {source destination copied : Layout}
    (copy : kind.copy source destination = some copied) : ∃ payload, kind.decode copied = .ok payload := by
  cases kind with
  | boundedText bound =>
      unfold MessageKind.copy at copy
      split at copy
      · cases copy
      · rw [show (boundedText bound).isNumeric = false from rfl, if_neg Bool.false_ne_true] at copy
        split at copy
        · cases copy
        · rename_i short
          split at copy
          · rename_i text done
            cases copy
            have fits : text.contents.length ≤ bound := by
              rw [TextBuffer.length_copyFrom done]
              exact Nat.le_of_not_lt (fun long => short (decide_eq_true long))
            refine ⟨.text text.contents, ?_⟩
            unfold decode accept BoundedText.ofBytes Layout.payload
            simp only [dif_pos fits]
          · cases copy
      · cases copy
  | _ => exact ⟨copied.payload, rfl⟩

/-- Whether a copy is refused depends on a ledger only through the refusals that are due. -/
theorem Ledger.fst_copy_of_refusals {first second : Ledger} (same : first.refusals = second.refusals)
    (kind : MessageKind) (source destination : Layout) :
    (first.copy kind source destination).1 = (second.copy kind source destination).1 := by
  simp only [copy, same]
  split <;> rfl

def SampleStore.content (store : SampleStore) (kind : MessageKind) (sample : Nat) : Layout :=
  match store.samples.get? sample with
  | some held => held.content
  | none => kind.fresh

namespace Request

variable {Value : Type} {middleware : Middleware}

theorem outcome_initContext (middleware : Middleware) (arguments : List Bytes) :
    ((initContext arguments).outcome middleware).1 =
      match Arguments.parse (some (arguments.map some)) arguments.length with
      | .ok _ => .ok middleware.transport.contexts.next
      | .error fault => .error fault := by
  change (middleware.initContext (some none) _ _).1 = _
  unfold Middleware.initContext
  cases Arguments.parse (some (arguments.map some)) arguments.length <;> rfl

/--
A request depends on a context: where that does not run it fails with one status, and where it runs with others at most.
-/
structure Depends (request : Request Value) (middleware : Middleware) (number : Nat) (down : Status)
    (others : List Status) : Prop where
  down : middleware.transport.isValid number = false →
    ∃ fault, (request.outcome middleware).1 = .error fault ∧ fault.status = down
  others : middleware.transport.isValid number = true →
    ∀ fault, (request.outcome middleware).1 = .error fault → fault.status ∈ others

theorem depends_of_ite {request : Request Value} {number : Nat} {refusal : Fault}
    {rest : Except Fault Value} {others : List Status}
    (outcome : (request.outcome middleware).1 =
      if middleware.transport.isValid number then rest else .error refusal)
    (only : ∀ fault, rest = .error fault → fault.status ∈ others) :
    request.Depends middleware number refusal.status others := by
  constructor
  · intro ended
    rw [ended, if_neg Bool.false_ne_true] at outcome
    exact ⟨refusal, outcome, rfl⟩
  · intro runs fault failed
    rw [runs, if_pos rfl] at outcome
    exact only fault (outcome.symm.trans failed)

theorem depends_shutdown (middleware : Middleware) (number : Nat) :
    (shutdown (some number)).Depends middleware number .alreadyShutdown [] := by
  have outcome : ((shutdown (some number)).outcome middleware).1 =
      if middleware.transport.isValid number then .ok () else .error .contextAlreadyShutDown := by
    change (middleware.shutdownContext (some (some number))).1 = _
    unfold Middleware.shutdownContext
    dsimp only
    split <;> rfl
  exact depends_of_ite outcome (fun _ failed => nomatch failed)

theorem depends_initNode (middleware : Middleware) (name space : Bytes) (number : Nat) :
    (initNode name space (some number)).Depends middleware number .notInit
      [.nodeInvalidName, .nodeInvalidNamespace] := by
  have outcome : ((initNode name space (some number)).outcome middleware).1 =
      if middleware.transport.isValid number then
        let owner := Middleware.effectiveOwner (middleware.transport.arguments number) true
          name.beforeNul space.beforeNul
        (Middleware.ownerFault? owner).elim (.ok { owner, useArguments := true, context := number })
          .error
      else .error .contextNotValid := by
    change (middleware.initNode (some none) (some name) (some space) (some (some number))
      (some true)).1 = _
    unfold Middleware.initNode
    dsimp only [Option.isSome_none]
    rw [if_neg Bool.false_ne_true]
    split
    · cases Middleware.ownerFault? _ <;> rfl
    · rfl
  refine depends_of_ite outcome (fun fault failed => ?_)
  dsimp only at failed
  cases found : Middleware.ownerFault?
      (Middleware.effectiveOwner (middleware.transport.arguments number) true name.beforeNul
        space.beforeNul) with
  | none =>
      rw [found] at failed
      cases failed
  | some other =>
      rw [found] at failed
      cases failed
      rcases Middleware.status_of_ownerFault? found with same | same <;> rw [same] <;> decide

theorem depends_initPublisher (middleware : Middleware) (state : NodeState) (kind : MessageKind)
    (topic : Bytes) (qos : Qos) :
    (initPublisher (some (some state)) kind topic qos).Depends middleware state.context .nodeInvalid
      [.topicNameInvalid] := by
  have outcome : ((initPublisher (some (some state)) kind topic qos).outcome middleware).1 =
      if middleware.transport.isValid state.context then
        let resolved := middleware.resolveTopic state topic.beforeNul
        resolved.1.map (fun topicName =>
          (resolved.2.registerPublisher topicName kind qos.resolve state.context).1)
      else .error .nodeNotValid := by
    change (middleware.initPublisher (some none) _ (some (.complete kind)) (some topic) (some qos)).1 = _
    unfold Middleware.initPublisher Middleware.validNode?
    dsimp only [TypeSupport.kind?, Option.isSome_none]
    rw [if_neg Bool.false_ne_true]
    cases middleware.transport.isValid state.context with
    | false => rfl
    | true =>
        rw [if_pos rfl, if_pos rfl]
        dsimp only
        rcases middleware.resolveTopic state topic.beforeNul with ⟨_ | _, _⟩ <;> rfl
  refine depends_of_ite outcome (fun fault failed => ?_)
  dsimp only at failed
  cases rejected : (middleware.resolveTopic state topic.beforeNul).1 with
  | ok topicName =>
      rw [rejected] at failed
      cases failed
  | error other =>
      rw [rejected] at failed
      cases failed
      rw [Middleware.status_of_resolveTopic rejected]
      exact List.mem_singleton_self _

theorem depends_initSubscription (middleware : Middleware) (state : NodeState) (kind : MessageKind)
    (topic : Bytes) (qos : Qos) :
    (initSubscription (some (some state)) kind topic qos).Depends middleware state.context .nodeInvalid
      [.topicNameInvalid] := by
  have outcome : ((initSubscription (some (some state)) kind topic qos).outcome middleware).1 =
      if middleware.transport.isValid state.context then
        let resolved := middleware.resolveTopic state topic.beforeNul
        resolved.1.map (fun topicName =>
          (resolved.2.registerSubscription topicName kind qos.resolve state.context).1)
      else .error .nodeNotValid := by
    change (middleware.initSubscription (some none) _ (some (.complete kind)) (some topic)
      (some qos)).1 = _
    unfold Middleware.initSubscription Middleware.validNode?
    dsimp only [TypeSupport.kind?, Option.isSome_none]
    rw [if_neg Bool.false_ne_true]
    cases middleware.transport.isValid state.context with
    | false => rfl
    | true =>
        rw [if_pos rfl, if_pos rfl]
        dsimp only
        rcases middleware.resolveTopic state topic.beforeNul with ⟨_ | _, _⟩ <;> rfl
  refine depends_of_ite outcome (fun fault failed => ?_)
  dsimp only at failed
  cases rejected : (middleware.resolveTopic state topic.beforeNul).1 with
  | ok topicName =>
      rw [rejected] at failed
      cases failed
  | error other =>
      rw [rejected] at failed
      cases failed
      rw [Middleware.status_of_resolveTopic rejected]
      exact List.mem_singleton_self _

section Publisher

variable {state : PublisherState} {held : PublisherEnd}

theorem validPublisher?_of_endpoint
    (found : middleware.transport.publishers.get? state.endpoint = some held) :
    middleware.validPublisher? (some (some state)) =
      if middleware.transport.isValid held.context then some state else none := by
  simp only [Middleware.validPublisher?, found]

theorem outcome_publish (found : middleware.transport.publishers.get? state.endpoint = some held)
    (message : Layout) :
    ((publish (some state) message).outcome middleware).1 =
      if middleware.transport.isValid held.context then
        match (middleware.ledger.copy state.kind message state.kind.fresh).1 with
        | some _ => .ok ()
        | none => .error (.messageNotCopied state.kind.typeName)
      else .error .publisherNotValid := by
  have same := Ledger.fst_copy_of_refusals
    (show (middleware.ledger.noteInit state.kind).refusals = middleware.ledger.refusals from rfl)
    state.kind message state.kind.fresh
  change (middleware.publish (some (some state)) (some message)).1 = _
  unfold Middleware.publish
  rw [validPublisher?_of_endpoint found, ← same]
  cases middleware.transport.isValid held.context with
  | false => rfl
  | true =>
      rw [if_pos rfl, if_pos rfl]
      dsimp only
      unfold SampleStore.create Middleware.ledger
      generalize (middleware.transport.store.ledger.noteInit state.kind).copy state.kind message
        state.kind.fresh = copied
      rcases copied with ⟨_ | content, ledger⟩ <;> rfl

theorem depends_publish (found : middleware.transport.publishers.get? state.endpoint = some held)
    (message : Layout) :
    (publish (some state) message).Depends middleware held.context .publisherInvalid [.error] := by
  refine depends_of_ite (outcome_publish found message) (fun fault failed => ?_)
  split at failed
  · cases failed
  · cases failed
    exact List.mem_singleton_self _

theorem publish_error_iff (found : middleware.transport.publishers.get? state.endpoint = some held)
    (message : Layout) :
    (∃ fault, ((publish (some state) message).outcome middleware).1 = .error fault ∧
        fault.status = .error) ↔
      middleware.transport.isValid held.context = true ∧
        (middleware.ledger.copy state.kind message state.kind.fresh).1 = none := by
  rw [outcome_publish found]
  cases middleware.transport.isValid held.context with
  | false =>
      constructor
      · rintro ⟨_, same, error⟩
        cases same
        cases error
      · exact fun ⟨runs, _⟩ => nomatch runs
  | true =>
      rw [if_pos rfl]
      cases (middleware.ledger.copy state.kind message state.kind.fresh).1 with
      | none => exact ⟨fun _ => ⟨rfl, rfl⟩, fun _ => ⟨_, rfl, rfl⟩⟩
      | some content => exact ⟨fun ⟨_, same, _⟩ => (nomatch same), fun ⟨_, same⟩ => nomatch same⟩

theorem depends_subscriptionCount
    (found : middleware.transport.publishers.get? state.endpoint = some held) :
    (subscriptionCount (some state)).Depends middleware held.context .publisherInvalid [] := by
  have outcome : ((subscriptionCount (some state)).outcome middleware).1 =
      if middleware.transport.isValid held.context then
        .ok (middleware.transport.matchedSubscriptions (middleware.topic state.key) state.endpoint)
      else .error .publisherNotValid := by
    change (middleware.subscriptionCount (some (some state)) true).1 = _
    simp only [Middleware.subscriptionCount, validPublisher?_of_endpoint found]
    cases middleware.transport.isValid held.context <;> rfl
  exact depends_of_ite outcome (fun _ failed => nomatch failed)

end Publisher

section Subscription

variable {state : SubscriptionState} {held : SubscriberEnd}

theorem validSubscription?_of_endpoint
    (found : middleware.transport.subscribers.get? state.endpoint = some held) :
    middleware.validSubscription? (some (some state)) =
      if middleware.transport.isValid held.context then some state else none := by
  simp only [Middleware.validSubscription?, found]

theorem outcome_take_waiting
    (found : middleware.transport.subscribers.get? state.endpoint = some held) (buffer : Layout) :
    ((take (some state) buffer).outcome middleware).1 =
      if middleware.transport.isValid held.context then
        match held.queue.waiting with
        | [] => .ok none
        | sample :: _ =>
            match (middleware.ledger.copy state.kind
              (middleware.transport.store.content state.kind sample) buffer).1 with
            | some filled => .ok (some filled)
            | none => .error (.messageNotCopied state.kind.typeName)
      else .error .subscriptionNotValid := by
  change (middleware.take (some (some state)) (some buffer)).1 = _
  unfold Middleware.take
  rw [validSubscription?_of_endpoint found]
  cases middleware.transport.isValid held.context with
  | false => rfl
  | true =>
      rw [if_pos rfl, if_pos rfl]
      unfold Transport.takeSample SampleQueue.pop
      dsimp only
      rw [found]
      dsimp only
      cases held.queue.waiting with
      | nil => rfl
      | cons sample rest =>
          unfold SampleStore.content Middleware.ledger
          dsimp only
          generalize middleware.transport.store.ledger.copy state.kind _ buffer = copied
          rcases copied with ⟨_ | filled, ledger⟩ <;> rfl

theorem depends_take (found : middleware.transport.subscribers.get? state.endpoint = some held)
    (buffer : Layout) :
    (take (some state) buffer).Depends middleware held.context .subscriptionInvalid [.error] := by
  refine depends_of_ite (outcome_take_waiting found buffer) (fun fault failed => ?_)
  split at failed
  · cases failed
  · split at failed
    · cases failed
    · cases failed
      exact List.mem_singleton_self _

theorem take_error_iff (found : middleware.transport.subscribers.get? state.endpoint = some held)
    (buffer : Layout) :
    (∃ fault, ((take (some state) buffer).outcome middleware).1 = .error fault ∧
        fault.status = .error) ↔
      middleware.transport.isValid held.context = true ∧
        ∃ sample, held.queue.waiting.head? = some sample ∧
          (middleware.ledger.copy state.kind
            (middleware.transport.store.content state.kind sample) buffer).1 = none := by
  rw [outcome_take_waiting found]
  cases middleware.transport.isValid held.context with
  | false =>
      constructor
      · rintro ⟨_, same, error⟩
        cases same
        cases error
      · exact fun ⟨runs, _⟩ => nomatch runs
  | true =>
      rw [if_pos rfl]
      cases held.queue.waiting with
      | nil => exact ⟨fun ⟨_, same, _⟩ => (nomatch same), fun ⟨_, _, same, _⟩ => nomatch same⟩
      | cons sample rest =>
          dsimp only
          cases copied : (middleware.ledger.copy state.kind
            (middleware.transport.store.content state.kind sample) buffer).1 with
          | none => exact ⟨fun _ => ⟨rfl, sample, rfl, copied⟩, fun _ => ⟨_, rfl, rfl⟩⟩
          | some filled =>
              refine ⟨fun ⟨_, same, _⟩ => (nomatch same), fun ⟨_, _, same, refused⟩ => ?_⟩
              cases same
              cases copied.symm.trans refused

theorem copied_of_taken (found : middleware.transport.subscribers.get? state.endpoint = some held)
    {buffer filled : Layout} {after : Middleware}
    (taken : (take (some state) buffer).outcome middleware = (.ok (some filled), after)) :
    ∃ source, state.kind.copy source buffer = some filled := by
  have told := congrArg Prod.fst taken
  rw [outcome_take_waiting found] at told
  split at told
  · split at told
    · cases told
    · split at told
      · rename_i copied
        cases told
        unfold Ledger.copy at copied
        split at copied
        · cases copied
        · exact ⟨_, copied⟩
      · cases told
  · cases told

theorem depends_publisherCount
    (found : middleware.transport.subscribers.get? state.endpoint = some held) :
    (publisherCount (some state)).Depends middleware held.context .subscriptionInvalid [] := by
  have outcome : ((publisherCount (some state)).outcome middleware).1 =
      if middleware.transport.isValid held.context then
        .ok (middleware.transport.matchedPublishers (middleware.topic state.key) state.endpoint)
      else .error .subscriptionNotValid := by
    change (middleware.publisherCount (some (some state)) true).1 = _
    simp only [Middleware.publisherCount, validSubscription?_of_endpoint found]
    cases middleware.transport.isValid held.context <;> rfl
  exact depends_of_ite outcome (fun _ failed => nomatch failed)

end Subscription

end Request

end PubSub
