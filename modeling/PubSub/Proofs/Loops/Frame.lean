import PubSub.Client.Script

/-!
What runs leave as it was.  A sight is something that can be seen of a session; a run leaves it if it is the same
afterwards, however the run ends, unless the run is stuck.  What makes objects, drops them or moves messages leaves all
executors; adding nodes to an executor, or dropping those that are gone, leaves its context and its workers.
-/

namespace PubSub

namespace Session

def seen {Key : Type} (key : Executor → Key) (name : String) (session : Session) : Option Key :=
  (session.executors.get? name).map key

theorem seen_modifyExecutor {Key : Type} {key : Executor → Key} {name other : String} {change : Executor → Executor}
    (same : name = other → ∀ executor, key (change executor) = key executor) (session : Session) :
    (session.modifyExecutor other change).seen key name = session.seen key name := by
  refine (congrArg (Option.map key) (session.executors.get?_modify other name change)).trans ?_
  split
  case isTrue equal =>
      subst equal
      rw [Option.map_map]
      exact Option.map_congr (fun executor _ => same rfl executor)
  case isFalse => rfl

theorem get?_dropExecutor {name other : String} (different : name ≠ other) (session : Session) :
    (session.dropExecutor other).executors.get? name = session.executors.get? name := by
  unfold dropExecutor
  split
  · rfl
  · exact (session.executors.get?_erase other name).trans (if_neg different)

theorem get?_nameExecutor {name other : String} (different : name ≠ other) (session : Session)
    (executor : Executor) :
    (session.nameExecutor other executor).executors.get? name = session.executors.get? name :=
  ((session.dropExecutor other).executors.get?_set other name executor).trans
    ((if_neg different).trans (get?_dropExecutor different session))

theorem executors_releaseNode (session : Session) (node : Nat) :
    (session.releaseNode node).executors = session.executors := by
  unfold releaseNode
  split
  · rfl
  · split <;> rfl

theorem executors_releaseSubscription (session : Session) (subscription : Nat) :
    (session.releaseSubscription subscription).executors = session.executors := by
  unfold releaseSubscription
  split
  · rfl
  · split <;> rfl

theorem executors_foldl {update : Session → Nat → Session}
    (leaves : ∀ session item, (update session item).executors = session.executors) (items : List Nat)
    (session : Session) : (items.foldl update session).executors = session.executors := by
  induction items generalizing session with
  | nil => rfl
  | cons item rest ih => exact (ih _).trans (leaves session item)

theorem executors_dropContext (session : Session) (name : String) :
    (session.dropContext name).executors = session.executors := by
  unfold dropContext
  split <;> rfl

theorem executors_dropNode (session : Session) (name : String) :
    (session.dropNode name).executors = session.executors := by
  unfold dropNode
  split
  · rfl
  · exact executors_releaseNode _ _

theorem executors_dropPublisher (session : Session) (name : String) :
    (session.dropPublisher name).executors = session.executors := by
  unfold dropPublisher
  split <;> rfl

theorem executors_dropSubscription (session : Session) (name : String) :
    (session.dropSubscription name).executors = session.executors := by
  unfold dropSubscription
  split
  · rfl
  · exact executors_releaseSubscription _ _

theorem executors_drop (session : Session) (sort : Owning) (name : String) :
    (session.drop sort name).executors = session.executors := by
  cases sort with
  | context => exact executors_dropContext session name
  | node => exact executors_dropNode session name
  | publisher => exact executors_dropPublisher session name
  | subscription => exact executors_dropSubscription session name

end Session

namespace Run

variable {Value Other Sight : Type} {sight : Session → Sight}

def Leaves (sight : Session → Sight) (run : Run Value) : Prop :=
  ∀ session, (run.run session).1 ≠ .error .stuck → sight (run.run session).2 = sight session

theorem leaves_pure (value : Value) : Leaves sight (pure value) :=
  fun _ _ => rfl

theorem leaves_raise (raised : Raised) : Leaves sight (raise raised : Run Value) :=
  fun _ _ => rfl

theorem leaves_stuck : Leaves sight (stuck : Run Value) :=
  fun _ _ => rfl

theorem leaves_view (read : Session → Value) : Leaves sight (view read) :=
  fun _ _ => rfl

theorem leaves_change {update : Session → Session} (leaves : ∀ session, sight (update session) = sight session) :
    Leaves sight (change update) :=
  fun session _ => leaves session

theorem leaves_changeGet {update : Session → Value × Session}
    (leaves : ∀ session, sight (update session).2 = sight session) : Leaves sight (changeGet update) :=
  fun session _ => leaves session

theorem leaves_bind {first : Run Value} {next : Value → Run Other} (leaves : Leaves sight first)
    (follows : ∀ value, Leaves sight (next value)) : Leaves sight (first >>= next) := by
  intro session ends
  have here := leaves session
  rw [run_bind] at ends ⊢
  rcases outcome : first.run session with ⟨stop | value, after⟩ <;> rw [outcome] at here ends
  · exact here (fun waits => ends (by cases waits; rfl))
  · exact (follows value after ends).trans (here (fun waits => nomatch waits))

theorem leaves_map (change : Value → Other) {run : Run Value} (leaves : Leaves sight run) :
    Leaves sight (change <$> run) := by
  rw [← bind_pure_comp]
  exact leaves_bind leaves (fun _ => leaves_pure _)

theorem leaves_attempt {run : Run Value} (leaves : Leaves sight run) : Leaves sight (attempt run) := by
  intro session ends
  have here := leaves session
  rw [run_attempt] at ends ⊢
  rcases outcome : run.run session with ⟨(raised | _) | value, after⟩ <;> rw [outcome] at here ends
  · exact here (fun waits => nomatch waits)
  · exact absurd rfl ends
  · exact here (fun waits => nomatch waits)

theorem leaves_ensuring {run : Run Value} {cleanup : Session → Session} (leaves : Leaves sight run)
    (cleans : ∀ session, sight (cleanup session) = sight session) : Leaves sight (ensuring run cleanup) := by
  intro session ends
  rw [run_ensuring] at ends ⊢
  exact (cleans _).trans (leaves session ends)

theorem leaves_ite {condition : Prop} [Decidable condition] {yes no : Run Value} (left : Leaves sight yes)
    (right : Leaves sight no) : Leaves sight (if condition then yes else no) := by
  split
  · exact left
  · exact right

theorem leaves_forM {Item : Type} (items : List Item) {visit : Item → Run PUnit}
    (leaves : ∀ item, Leaves sight (visit item)) : Leaves sight (items.forM visit) := by
  induction items with
  | nil => exact leaves_pure _
  | cons item rest ih => exact leaves_bind (leaves item) (fun _ => ih)

theorem leaves_find (lookup : Session → Option Value) : Leaves sight (find lookup) := by
  apply leaves_bind (leaves_view lookup)
  intro found
  cases found with
  | none => exact leaves_raise _
  | some value => exact leaves_pure value

theorem leaves_requireText (kind : FailureKind) (attempted : Bytes) (status : Status) (value : Bytes) :
    Leaves sight (requireText kind attempted status value) := by
  unfold requireText
  cases Raised.ofZeroByte? kind attempted status value with
  | none => exact leaves_pure _
  | some raised => exact leaves_raise raised

theorem leaves_findNode (name : String) : Leaves sight (findNode name) :=
  leaves_find _

theorem leaves_findSubscription (name : String) : Leaves sight (findSubscription name) :=
  leaves_find _

theorem leaves_findExecutor (name : String) : Leaves sight (findExecutor name) :=
  leaves_find _

theorem leaves_requireName (sort : Owning) (name : String) : Leaves sight (requireName sort name) := by
  cases sort with
  | context => exact leaves_bind (leaves_find _) (fun _ => leaves_pure _)
  | node => exact leaves_bind (leaves_findNode name) (fun _ => leaves_pure _)
  | publisher => exact leaves_bind (leaves_find _) (fun _ => leaves_pure _)
  | subscription => exact leaves_bind (leaves_findSubscription name) (fun _ => leaves_pure _)

theorem leaves_call (operation : Middleware → Outcome Value) : Leaves Session.executors (call operation) :=
  leaves_changeGet (fun _ => rfl)

theorem leaves_noteLedger (update : Ledger → Ledger) : Leaves Session.executors (noteLedger update) :=
  leaves_change (fun _ => rfl)

theorem leaves_orFail (kind : FailureKind) (attempted : Bytes) (result : Except Fault Value) :
    Leaves Session.executors (orFail kind attempted result) := by
  cases result with
  | ok value => exact leaves_pure value
  | error fault =>
      apply leaves_bind (leaves_view _)
      exact fun reason => leaves_bind (leaves_change (fun _ => rfl)) (fun _ => leaves_raise _)

theorem leaves_makeContext (name : String) (arguments : List Bytes) :
    Leaves Session.executors (makeContext name arguments) := by
  apply leaves_bind (leaves_forM arguments (fun _ => leaves_requireText _ _ _ _))
  intro _
  apply leaves_bind (leaves_call _)
  intro result
  apply leaves_bind (leaves_orFail _ _ result)
  intro context
  apply leaves_bind (leaves_changeGet (fun _ => rfl))
  intro handle
  exact leaves_bind (leaves_change (fun session => session.executors_dropContext name)) (fun _ => leaves_pure _)

theorem leaves_copyContext (name source : String) : Leaves Session.executors (copyContext name source) := by
  apply leaves_bind (leaves_find _)
  intro handle
  apply leaves_bind
  · exact leaves_change (fun session => (session.retainHandle handle).executors_dropContext name)
  · exact fun _ => leaves_pure _

theorem leaves_shutdown (name : String) : Leaves Session.executors (shutdown name) := by
  apply leaves_bind (leaves_find _)
  intro handle
  apply leaves_bind (leaves_view _)
  intro slot
  apply leaves_bind (leaves_call _)
  exact fun result => leaves_bind (leaves_orFail _ _ result) (fun _ => leaves_pure _)

theorem leaves_contextIsValid (name : String) : Leaves sight (contextIsValid name) :=
  leaves_bind (leaves_find _) (fun _ => leaves_bind (leaves_view _) (fun _ => leaves_pure _))

theorem leaves_nodeContextIsValid (name : String) : Leaves sight (nodeContextIsValid name) :=
  leaves_bind (leaves_findNode name) (fun _ => leaves_bind (leaves_view _) (fun _ => leaves_pure _))

theorem leaves_describeNode (handle : Nat) : Leaves sight (describeNode handle) := by
  apply leaves_bind (leaves_view _)
  intro state
  cases state <;> exact leaves_pure _

theorem leaves_makeNode (name context : String) (nodeName space : Bytes) :
    Leaves Session.executors (makeNode name context nodeName space) := by
  apply leaves_bind (leaves_find _)
  intro above
  apply leaves_bind (leaves_requireText _ _ _ _)
  intro _
  apply leaves_bind (leaves_requireText _ _ _ _)
  intro _
  apply leaves_bind (leaves_view _)
  intro slot
  apply leaves_bind (leaves_call _)
  intro result
  apply leaves_bind (leaves_orFail _ _ result)
  intro state
  apply leaves_bind (leaves_changeGet (fun _ => rfl))
  intro handle
  apply leaves_bind
  · exact leaves_change (fun session => Session.executors_dropNode _ name)
  · exact fun _ => leaves_describeNode handle

theorem leaves_nodeInfo (name : String) : Leaves sight (nodeInfo name) :=
  leaves_bind (leaves_findNode name) (fun found => leaves_describeNode found.2.handle)

theorem leaves_pruneSubscriptions (node : Nat) : Leaves Session.executors (pruneSubscriptions node) := by
  apply leaves_changeGet
  intro session
  split <;> rfl

theorem leaves_live (name : String) : Leaves Session.executors (live name) := by
  apply leaves_bind (leaves_findNode name)
  intro found
  apply leaves_bind (leaves_pruneSubscriptions found.1)
  exact fun subscriptions => leaves_bind (leaves_view _) (fun _ => leaves_pure _)

theorem leaves_finiNativeNode (name : String) : Leaves Session.executors (finiNativeNode name) := by
  apply leaves_bind (leaves_findNode name)
  intro found
  apply leaves_bind (leaves_view _)
  intro slot
  apply leaves_bind (leaves_call _)
  intro result
  cases result with
  | ok _ => exact leaves_bind (leaves_change (fun _ => rfl)) (fun _ => leaves_pure _)
  | error fault => exact leaves_pure _

theorem leaves_makePublisher (name node : String) (kind : MessageKind) (topic : Bytes) (qos : Qos) :
    Leaves Session.executors (makePublisher name node kind topic qos) := by
  apply leaves_bind (leaves_findNode node)
  intro found
  apply leaves_bind (leaves_requireText _ _ _ _)
  intro _
  apply leaves_bind (leaves_view _)
  intro slot
  apply leaves_bind (leaves_call _)
  intro result
  apply leaves_bind (leaves_orFail _ _ result)
  intro state
  apply leaves_bind (leaves_changeGet (fun _ => rfl))
  intro handle
  exact leaves_bind (leaves_change (fun session => session.executors_dropPublisher name)) (fun _ => leaves_pure _)

theorem leaves_copyPublisher (name source : String) : Leaves Session.executors (copyPublisher name source) := by
  apply leaves_bind (leaves_find _)
  intro publisher
  apply leaves_bind
  · exact leaves_change (fun session => (session.retainHandle publisher.handle).executors_dropPublisher name)
  · exact fun _ => leaves_pure _

theorem leaves_makeSubscription (name node : String) (kind : MessageKind) (topic : Bytes) (qos : Qos)
    (registered : Bool) (script : Script) :
    Leaves Session.executors (makeSubscription name node kind topic qos registered script) := by
  apply leaves_bind (leaves_findNode node)
  intro found
  apply leaves_bind (leaves_requireText _ _ _ _)
  intro _
  apply leaves_bind (leaves_view _)
  intro slot
  apply leaves_bind (leaves_call _)
  intro result
  apply leaves_bind (leaves_orFail _ _ result)
  intro state
  apply leaves_bind (leaves_changeGet (fun _ => rfl))
  intro handle
  apply leaves_bind
  · apply leaves_change
    intro session
    refine (Session.executors_dropSubscription _ name).trans ?_
    cases registered <;> rfl
  · exact fun _ => leaves_pure _

theorem leaves_info (sort : Owning) (name : String) : Leaves sight (info sort name) := by
  cases sort with
  | context => exact leaves_bind (leaves_find _) (fun _ => leaves_bind (leaves_view _) (fun _ => leaves_pure _))
  | node => exact leaves_bind (leaves_findNode name) (fun _ => leaves_bind (leaves_view _) (fun _ => leaves_pure _))
  | publisher =>
      apply leaves_bind (leaves_find _)
      intro publisher
      apply leaves_bind (leaves_view _)
      exact fun topic => leaves_bind (leaves_view _) (fun _ => leaves_pure _)
  | subscription =>
      apply leaves_bind (leaves_findSubscription name)
      intro subscription
      apply leaves_bind (leaves_view _)
      exact fun topic => leaves_bind (leaves_view _) (fun _ => leaves_pure _)

theorem leaves_countSubscriptions (name : String) : Leaves Session.executors (countSubscriptions name) := by
  apply leaves_bind (leaves_find _)
  intro publisher
  apply leaves_bind (leaves_view _)
  intro slot
  apply leaves_bind (leaves_call _)
  exact fun result => leaves_bind (leaves_orFail _ _ result) (fun _ => leaves_pure _)

theorem leaves_countPublishers (name : String) : Leaves Session.executors (countPublishers name) := by
  apply leaves_bind (leaves_findSubscription name)
  intro found
  apply leaves_bind (leaves_view _)
  intro slot
  apply leaves_bind (leaves_call _)
  exact fun result => leaves_bind (leaves_orFail _ _ result) (fun _ => leaves_pure _)

theorem leaves_drop (sort : Owning) (name : String) :
    Leaves Session.executors (change (fun session => session.drop sort name)) :=
  leaves_change (fun session => session.executors_drop sort name)

theorem leaves_compose (kind : MessageKind) (datum : Datum) : Leaves sight (compose kind datum) := by
  unfold compose
  split
  · exact leaves_raise _
  · split
    · exact leaves_raise _
    · exact leaves_pure _

theorem leaves_decode (kind : MessageKind) (layout : Layout) : Leaves sight (decode kind layout) := by
  unfold decode
  split
  · exact leaves_raise _
  · exact leaves_pure _

theorem leaves_send (publisher : PublisherObject) (datum : Datum) :
    Leaves Session.executors (send publisher datum) := by
  apply leaves_bind (leaves_compose _ _)
  intro payload
  apply leaves_bind (leaves_noteLedger _)
  intro _
  apply leaves_bind (leaves_view _)
  intro slot
  apply leaves_bind (leaves_call _)
  intro result
  apply leaves_bind (leaves_noteLedger _)
  exact fun _ => leaves_orFail _ _ result

theorem leaves_publish (name : String) (draft : Draft) : Leaves Session.executors (publish name draft) := by
  apply leaves_bind (leaves_find _)
  intro publisher
  cases draft with
  | given datum => exact leaves_bind (leaves_send publisher datum) (fun _ => leaves_pure _)
  | plus summand => exact leaves_bind (leaves_raise _) (fun _ => leaves_pure _)
  | followedBy tail => exact leaves_bind (leaves_raise _) (fun _ => leaves_pure _)

theorem leaves_publishRange (name : String) (first last : Int) :
    Leaves Session.executors (publishRange name first last) := by
  apply leaves_bind
  · exact leaves_forM _ (fun step => leaves_bind (leaves_find _) (fun publisher => leaves_send publisher _))
  · exact fun _ => leaves_pure _

theorem leaves_withBuffer (kind : MessageKind) {use : Layout → Run Value}
    (leaves : ∀ buffer, Leaves Session.executors (use buffer)) : Leaves Session.executors (withBuffer kind use) :=
  leaves_bind (leaves_noteLedger _) (fun _ => leaves_ensuring (leaves kind.fresh) (fun _ => rfl))

theorem leaves_takeInto (subscription : SubscriptionObject) (buffer : Layout) :
    Leaves Session.executors (takeInto subscription buffer) := by
  apply leaves_bind (leaves_view _)
  intro slot
  apply leaves_bind (leaves_view _)
  intro kind
  exact leaves_bind (leaves_call _) (fun result => leaves_orFail _ _ result)

theorem leaves_takeMessage (subscription : SubscriptionObject) :
    Leaves Session.executors (takeMessage subscription) := by
  apply leaves_withBuffer
  intro buffer
  apply leaves_bind (leaves_takeInto subscription buffer)
  intro taken
  cases taken with
  | none => exact leaves_pure _
  | some filled => exact leaves_bind (leaves_decode _ filled) (fun _ => leaves_pure _)

theorem leaves_take (name : String) : Leaves Session.executors (take name) :=
  leaves_bind (leaves_findSubscription name)
    (fun found => leaves_bind (leaves_takeMessage found.2) (fun _ => leaves_pure _))

theorem leaves_takeMessages (subscription : SubscriptionObject) (limit : Nat) :
    Leaves Session.executors (takeMessages subscription limit) := by
  induction limit with
  | zero => exact leaves_stuck
  | succ remaining ih =>
      apply leaves_bind (leaves_takeMessage subscription)
      intro taken
      cases taken with
      | none => exact leaves_pure _
      | some payload => exact leaves_bind ih (fun _ => leaves_pure _)

theorem leaves_takeAll (name : String) : Leaves Session.executors (takeAll name) := by
  apply leaves_bind (leaves_findSubscription name)
  intro found
  apply leaves_bind (leaves_view _)
  exact fun waiting => leaves_bind (leaves_takeMessages found.2 _) (fun _ => leaves_pure _)

end Run

end PubSub
