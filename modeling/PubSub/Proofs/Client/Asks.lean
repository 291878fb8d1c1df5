import PubSub.Proofs.Client.Proceeds

/-!
Operations proceed that run no callback: those that make something or tell something, and those that publish and take.
-/

namespace PubSub

def Answer.isPlain : Answer → Bool
  | worked _ _ _ _ => false
  | _ => true

theorem Answer.truthful_of_isPlain {answer : Answer} (plain : answer.isPlain = true) :
    answer.Truthful := by
  refine .other (fun during timedOut stopped running same => ?_)
  subst same
  cases plain

namespace Run

variable {Value : Type} {accepts : Value → Prop}

theorem proceeds_answer {answer : Answer} (plain : answer.isPlain = true) :
    Proceeds Answer.Truthful (pure answer) :=
  proceeds_pure (Answer.truthful_of_isPlain plain)

theorem proceeds_makeContext (name : String) (arguments : List Bytes) :
    Proceeds Answer.Truthful (makeContext name arguments) := by
  intro scene _
  rw [run_makeContext]
  cases dirty : arguments.any Bytes.hasNul with
  | true => exact ⟨.refl, .zeroByte _ _ _⟩
  | false =>
      refine ends_goOn (.initContext arguments) rfl rfl (fun context middleware made => ?_)
      exact ⟨.made (.context name dirty made), Answer.truthful_of_isPlain rfl⟩

theorem proceeds_copyContext (name source : String) :
    Proceeds Answer.Truthful (copyContext name source) := by
  intro scene
  apply proceedsAt_find_bind
  intro handle found _
  have named := (scene.session.retainHandle handle).reshares_nameContext name handle
  exact ⟨.reshares (.contextShared name found) named rfl, Answer.truthful_of_isPlain rfl⟩

theorem proceeds_shutdown (name : String) : Proceeds Answer.Truthful (shutdown name) := by
  intro scene _
  cases found : scene.session.contextNames.get? name with
  | none =>
      unfold shutdown
      rw [run_find_bind_none found]
      exact ⟨.refl, .other rfl⟩
  | some handle =>
      rw [run_shutdown found]
      refine ends_goOn (.shutdown (scene.session.contextSlot handle)) rfl rfl
        (fun told middleware granted => ?_)
      exact ⟨.answered rfl rfl granted, Answer.truthful_of_isPlain rfl⟩

theorem proceeds_contextIsValid (name : String) : Proceeds Answer.Truthful (contextIsValid name) :=
  proceeds_find_bind (fun _ => proceeds_bind (proceeds_view _) (fun _ _ => proceeds_answer rfl))

theorem proceeds_findNode (name : String) : Proceeds Anything (findNode name) :=
  proceeds_find _

theorem proceeds_describeNode (handle : Nat) : Proceeds Answer.Truthful (describeNode handle) := by
  apply proceeds_bind (proceeds_view _)
  intro state _
  cases state <;> exact proceeds_answer rfl

theorem proceeds_makeNode (name context : String) (nodeName space : Bytes) :
    Proceeds Answer.Truthful (makeNode name context nodeName space) := by
  intro scene _
  cases found : scene.session.contextNames.get? context with
  | none =>
      unfold makeNode
      rw [run_find_bind_none found]
      exact ⟨.refl, .other rfl⟩
  | some handle =>
      rw [run_makeNode found]
      cases dirtyName : nodeName.hasNul with
      | true => exact ⟨.refl, .zeroByte _ _ _⟩
      | false =>
          cases dirtySpace : space.hasNul with
          | true => exact ⟨.refl, .zeroByte _ _ _⟩
          | false =>
              refine ends_goOn (.initNode nodeName space (scene.session.contextSlot handle)) rfl rfl
                (fun state middleware made => ?_)
              obtain ⟨_, _, _, told⟩ := run_describeNode scene.session.forest.handles.next
                (scene.session.nodeMade name nodeName handle state middleware)
              rw [told]
              exact ⟨.made (.node name found dirtyName dirtySpace made),
                Answer.truthful_of_isPlain rfl⟩

theorem proceeds_makePublisher (name node : String) (kind : MessageKind) (topic : Bytes) (qos : Qos) :
    Proceeds Answer.Truthful (makePublisher name node kind topic qos) := by
  intro scene _
  cases found : scene.session.namedNode? node with
  | none =>
      unfold makePublisher findNode
      rw [run_find_bind_none found]
      exact ⟨.refl, .other rfl⟩
  | some named =>
      obtain ⟨index, object⟩ := named
      rw [run_makePublisher found]
      cases dirty : topic.hasNul with
      | true => exact ⟨.refl, .zeroByte _ _ _⟩
      | false =>
          let slot := Session.nodeSlot (scene.session.forest.get? object.handle)
          refine ends_goOn (.initPublisher slot kind topic qos) rfl rfl (fun state middleware made => ?_)
          exact ⟨.made (.publisher name found dirty made), Answer.truthful_of_isPlain rfl⟩

theorem proceeds_copyPublisher (name source : String) :
    Proceeds Answer.Truthful (copyPublisher name source) := by
  intro scene
  apply proceedsAt_find_bind
  intro publisher found _
  have named := (scene.session.retainHandle publisher.handle).reshares_namePublisher name publisher
  exact ⟨.reshares (.publisherShared name found) named rfl, Answer.truthful_of_isPlain rfl⟩

theorem proceeds_makeSubscription (name node : String) (kind : MessageKind) (topic : Bytes) (qos : Qos)
    (registered : Bool) {script : Script} (orderly : orderlyScript script = true) :
    Proceeds Answer.Truthful (makeSubscription name node kind topic qos registered script) := by
  intro scene _
  cases found : scene.session.namedNode? node with
  | none =>
      unfold makeSubscription findNode
      rw [run_find_bind_none found]
      exact ⟨.refl, .other rfl⟩
  | some named =>
      obtain ⟨index, object⟩ := named
      rw [run_makeSubscription found]
      cases dirty : topic.hasNul with
      | true => exact ⟨.refl, .zeroByte _ _ _⟩
      | false =>
          let slot := Session.nodeSlot (scene.session.forest.get? object.handle)
          refine ends_goOn (.initSubscription slot kind topic qos) rfl rfl (fun state middleware made => ?_)
          exact ⟨.made (.subscription name registered orderly found dirty made),
            Answer.truthful_of_isPlain rfl⟩

theorem proceeds_makeExecutor (name context : String) (threads : Nat) :
    Proceeds Answer.Truthful (makeExecutor name context threads) := by
  intro scene
  apply proceedsAt_find_bind
  intro handle found _
  have named := fun executor =>
    (scene.session.retainHandle handle).reshares_nameExecutor name executor
  exact ⟨.reshares (.executorMade name threads found) (named _) rfl, Answer.truthful_of_isPlain rfl⟩

theorem proceeds_nodeInfo (name : String) : Proceeds Answer.Truthful (nodeInfo name) :=
  proceeds_find_bind (fun _ => proceeds_describeNode _)

theorem proceeds_nodeContextIsValid (name : String) :
    Proceeds Answer.Truthful (nodeContextIsValid name) :=
  proceeds_find_bind (fun _ => proceeds_bind (proceeds_view _) (fun _ _ => proceeds_answer rfl))

theorem proceeds_pruneSubscriptions (node : Nat) : Proceeds Anything (pruneSubscriptions node) := by
  intro scene _
  unfold pruneSubscriptions
  rw [run_changeGet]
  cases found : scene.session.nodes.get? node with
  | none => exact ⟨.refl, trivial⟩
  | some held => exact ⟨.silent (.subscriptionsPruned found) rfl rfl, trivial⟩

theorem proceeds_live (name : String) : Proceeds Answer.Truthful (live name) := by
  apply proceeds_find_bind
  intro found
  apply proceeds_bind (proceeds_pruneSubscriptions _)
  exact fun _ _ => proceeds_bind (proceeds_view _) (fun _ _ => proceeds_answer rfl)

theorem proceeds_findSubscription (name : String) : Proceeds Anything (findSubscription name) :=
  proceeds_find _

theorem proceeds_requireName (sort : Owning) (name : String) :
    Proceeds Anything (requireName sort name) := by
  cases sort with
  | context => exact proceeds_find_bind (fun _ => proceeds_pure trivial)
  | node => exact proceeds_bind (proceeds_findNode name) (fun _ _ => proceeds_pure trivial)
  | publisher => exact proceeds_find_bind (fun _ => proceeds_pure trivial)
  | subscription =>
      exact proceeds_bind (proceeds_findSubscription name) (fun _ _ => proceeds_pure trivial)

theorem proceeds_info (sort : Owning) (name : String) : Proceeds Answer.Truthful (info sort name) := by
  cases sort with
  | context =>
      apply proceeds_find_bind
      exact fun _ => proceeds_bind (proceeds_view _) (fun _ _ => proceeds_answer rfl)
  | node =>
      apply proceeds_bind (proceeds_findNode name)
      exact fun _ _ => proceeds_bind (proceeds_view _) (fun _ _ => proceeds_answer rfl)
  | publisher =>
      apply proceeds_find_bind
      intro publisher
      apply proceeds_bind (proceeds_view _)
      exact fun _ _ => proceeds_bind (proceeds_view _) (fun _ _ => proceeds_answer rfl)
  | subscription =>
      apply proceeds_bind (proceeds_findSubscription name)
      intro found _
      apply proceeds_bind (proceeds_view _)
      exact fun _ _ => proceeds_bind (proceeds_view _) (fun _ _ => proceeds_answer rfl)

theorem proceeds_countSubscriptions (name : String) :
    Proceeds Answer.Truthful (countSubscriptions name) := by
  intro scene _
  cases found : scene.session.publisherNames.get? name with
  | none =>
      unfold countSubscriptions
      rw [run_find_bind_none found]
      exact ⟨.refl, .other rfl⟩
  | some publisher =>
      rw [run_countSubscriptions found]
      refine ends_goOn (.subscriptionCount (scene.session.publisherSlot publisher.handle)) rfl rfl
        (fun number middleware granted => ?_)
      exact ⟨.answered rfl rfl granted, Answer.truthful_of_isPlain rfl⟩

theorem proceeds_countPublishers (name : String) :
    Proceeds Answer.Truthful (countPublishers name) := by
  intro scene _
  cases found : scene.session.namedSubscription? name with
  | none =>
      unfold countPublishers findSubscription
      rw [run_find_bind_none found]
      exact ⟨.refl, .other rfl⟩
  | some named =>
      obtain ⟨index, subscription⟩ := named
      rw [run_countPublishers found]
      refine ends_goOn (.publisherCount (scene.session.subscriptionSlot subscription.handle)) rfl rfl
        (fun number middleware granted => ?_)
      exact ⟨.answered rfl rfl granted, Answer.truthful_of_isPlain rfl⟩

theorem proceedsAt_send {scene : Scene} {name : String} {publisher : PublisherObject}
    (found : scene.session.publisherNames.get? name = some publisher) (datum : Datum) :
    ProceedsAt scene Anything (send publisher datum) := by
  cases fits : datum.payload publisher.kind with
  | error expected =>
      unfold send compose
      rw [fits]
      exact proceeds_raise_bind (.other rfl) scene
  | ok payload =>
      cases bounded : publisher.kind.accept payload with
      | error overlong =>
          unfold send compose
          rw [fits]
          dsimp only
          rw [bounded]
          exact proceeds_raise_bind (.other rfl) scene
      | ok message =>
          intro _
          refine ⟨⟨_, .published .refl found fits bounded⟩, ?_⟩
          rcases run_send_cases fits bounded scene.session with ⟨_, _, ends⟩ | ⟨_, _, refused, ends⟩
          · rw [ends]
            trivial
          · rw [ends]
            have worded : (Request.publish (scene.session.publisherSlot publisher.handle)
                (publisher.kind.encode message)).WordedAs (Bytes.ofString "failed to publish") := rfl
            exact .refused _ worded (congrArg Prod.fst refused)

theorem proceeds_publish (name : String) (draft : Draft) :
    Proceeds Answer.Truthful (publish name draft) := by
  intro scene
  apply proceedsAt_find_bind
  intro publisher found
  cases draft with
  | given datum => exact proceedsAt_bind (proceedsAt_send found datum) (fun _ _ _ _ => proceeds_answer rfl _)
  | plus summand => exact proceeds_raise_bind (.other rfl) scene
  | followedBy tail => exact proceeds_raise_bind (.other rfl) scene

theorem proceeds_publishRange (name : String) (first last : Int) :
    Proceeds Answer.Truthful (publishRange name first last) := by
  refine proceeds_bind (proceeds_forM _ (fun step => ?_)) (fun _ _ => proceeds_answer rfl)
  exact fun _ => proceedsAt_find_bind (fun publisher found => proceedsAt_send found _)

theorem proceeds_withBuffer (kind : MessageKind) {use : Layout → Run Value}
    (proceeds : ∀ buffer, Proceeds accepts (use buffer)) : Proceeds accepts (withBuffer kind use) :=
  fun _ => proceedsAt_keeping (.silent (.bufferMade kind) rfl rfl) rfl
    (fun _ => .silent (.bufferLeft rfl) rfl rfl) (proceeds kind.fresh _)

theorem proceeds_takeInto (subscription : SubscriptionObject) (buffer : Layout) :
    Proceeds Anything (takeInto subscription buffer) := by
  intro scene _
  rw [run_takeInto]
  exact ends_request (.take (scene.session.subscriptionSlot subscription.handle) buffer) rfl ⟨_, rfl⟩
    rfl

theorem proceeds_decode (kind : MessageKind) (layout : Layout) :
    Proceeds Anything (decode kind layout) := by
  unfold decode
  cases kind.decode layout with
  | error overlong => exact proceeds_raise (.other rfl)
  | ok payload => exact proceeds_pure trivial

theorem proceeds_takeMessage (subscription : SubscriptionObject) :
    Proceeds Anything (takeMessage subscription) := by
  apply proceeds_withBuffer
  intro buffer
  apply proceeds_bind (proceeds_takeInto _ _)
  intro taken _
  cases taken with
  | none => exact proceeds_pure trivial
  | some filled => exact proceeds_bind (proceeds_decode _ _) (fun _ _ => proceeds_pure trivial)

theorem proceeds_take (name : String) : Proceeds Answer.Truthful (take name) := by
  apply proceeds_bind (proceeds_findSubscription name)
  exact fun _ _ => proceeds_bind (proceeds_takeMessage _) (fun _ _ => proceeds_answer rfl)

theorem proceeds_takeMessages (subscription : SubscriptionObject) (limit : Nat) :
    Proceeds Anything (takeMessages subscription limit) := by
  induction limit with
  | zero => exact proceeds_stuck
  | succ remaining ih =>
      apply proceeds_bind (proceeds_takeMessage subscription)
      intro taken _
      cases taken with
      | none => exact proceeds_pure trivial
      | some payload => exact proceeds_bind ih (fun _ _ => proceeds_pure trivial)

theorem proceeds_takeAll (name : String) : Proceeds Answer.Truthful (takeAll name) := by
  apply proceeds_bind (proceeds_findSubscription name)
  intro found _
  apply proceeds_bind (proceeds_view _)
  exact fun _ _ => proceeds_bind (proceeds_takeMessages _ _) (fun _ _ => proceeds_answer rfl)

end Run

end PubSub
