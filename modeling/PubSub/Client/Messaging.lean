import PubSub.Client.Creation

/-!
Messages on their way: publishing them, taking them, and handing them to callbacks.

A message is taken into a buffer, which is made before the take and released after its last use, whatever
happens in between.  What a callback does is a parameter here.
-/

namespace PubSub

abbrev Callback := SubscriptionObject → Payload → Run Unit

namespace Run

variable {Value : Type}

/-- A datum as a message of a kind, which must fit the kind and its bound. -/
def compose (kind : MessageKind) (datum : Datum) : Run Payload :=
  match datum.payload kind with
  | .error expected => raise (.unfit expected)
  | .ok payload =>
      match kind.accept payload with
      | .error overlong => raise (.overlong overlong)
      | .ok accepted => return accepted

def decode (kind : MessageKind) (layout : Layout) : Run Payload :=
  match kind.decode layout with
  | .error overlong => raise (.overlong overlong)
  | .ok payload => return payload

/-- Publishes a datum.  Its native form is given back whether or not it was sent. -/
def send (publisher : PublisherObject) (datum : Datum) : Run Unit := do
  let payload ← compose publisher.kind datum
  noteLedger (fun ledger => ledger.noteAcquired publisher.kind)
  let slot ← view (fun session => session.publisherSlot publisher.handle)
  let result ← call (fun middleware =>
    middleware.publish (some slot) (some (publisher.kind.encode payload)))
  noteLedger (fun ledger => ledger.noteReleased publisher.kind)
  orFail .publish (Bytes.ofString "failed to publish") result

def findPublisher (name : String) : Run PublisherObject :=
  find (fun session => session.publisherNames.get? name)

def publish (name : String) (draft : Draft) : Run Answer := do
  let publisher ← findPublisher name
  match draft with
  | .given datum => send publisher datum
  | .plus _ => raise (.unfit (if publisher.kind.isNumeric then .number else .text))
  | .followedBy _ => raise (.unfit (if publisher.kind.isNumeric then .number else .text))
  return .done

/-- Publishes ascending integers in decimal, the last excluded; without any, no publisher is needed. -/
def publishRange (name : String) (first last : Int) : Run Answer := do
  (List.range (last - first).toNat).forM (fun (step : Nat) => do
    let publisher ← findPublisher name
    send publisher (.text (Bytes.ofInt (first + step))))
  return .done

def withBuffer (kind : MessageKind) (use : Layout → Run Value) : Run Value := do
  noteLedger (fun ledger => ledger.noteInit kind)
  ensuring (use kind.fresh) (fun session =>
    session.noteLedger (fun ledger => ledger.noteFini kind))

def takeInto (subscription : SubscriptionObject) (buffer : Layout) : Run (Option Layout) := do
  let slot ← view (fun session => session.subscriptionSlot subscription.handle)
  let kind ← view (fun session => session.handleKind subscription.handle)
  let result ← call (fun middleware => middleware.take (some slot) (some buffer))
  orFail .take (Bytes.ofString "failed to take from " ++ kind) result

def takeMessage (subscription : SubscriptionObject) : Run (Option Payload) :=
  withBuffer subscription.kind (fun buffer => do
    match ← takeInto subscription buffer with
    | none => return none
    | some filled => return some (← decode subscription.kind filled))

def take (name : String) : Run Answer := do
  let (_, subscription) ← findSubscription name
  return .message (← takeMessage subscription)

def takeMessages (subscription : SubscriptionObject) : Nat → Run (List Payload)
  | 0 => stuck
  | remaining + 1 => do
      match ← takeMessage subscription with
      | none => return []
      | some payload => return payload :: (← takeMessages subscription remaining)

/-- Takes all messages that wait.  None comes in between, so one take more than messages is enough. -/
def takeAll (name : String) : Run Answer := do
  let (_, subscription) ← findSubscription name
  let waiting ← view (fun session => session.waiting subscription)
  return .messages (← takeMessages subscription (waiting.length + 1))

def keepingSubscriptions (subscriptions : List Nat) (body : Run Value) : Run Value := do
  change (fun session => subscriptions.foldl Session.retainSubscription session)
  ensuring body (fun session => subscriptions.foldl Session.releaseSubscription session)

/--
Hands a native message of a kind to the callback.  It must be of the subscription's kind, and it waits
until the callback is not running: for good, if it runs further out.
-/
def handleMessage (callback : Callback) (index : Nat) (subscription : SubscriptionObject)
    (kind : MessageKind) (message : Layout) : Run Unit := do
  if kind ≠ subscription.kind then raise (.misuse .otherKind)
  let payload ← decode subscription.kind message
  if ← view (fun session => session.isBusy index) then stuck
  change (fun session => session.setBusy index true)
  ensuring (callback subscription payload) (fun session => session.setBusy index false)

def deliverFront (callback : Callback) (index : Nat) (subscription : SubscriptionObject) :
    Run Bool :=
  withBuffer subscription.kind (fun buffer => do
    match ← takeInto subscription buffer with
    | none => return false
    | some filled =>
        handleMessage callback index subscription subscription.kind filled
        return true)

def dispatch (callback : Callback) (name : String) : Run Answer := do
  let (index, subscription) ← findSubscription name
  return .taken (← keepingSubscriptions [index] (deliverFront callback index subscription))

/--
Hands a fresh message of any kind to the callback of a subscription.  The message is made before the
subscription is looked for.
-/
def handleForeign (callback : Callback) (name : String) (kind : MessageKind) : Run Answer :=
  withBuffer kind (fun buffer => do
    let (index, subscription) ← findSubscription name
    keepingSubscriptions [index] (handleMessage callback index subscription kind buffer)
    return .done)

end Run

end PubSub
