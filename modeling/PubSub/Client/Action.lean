import PubSub.Client.Raised
import PubSub.Qos

/-!
What users do through the client interface, and what they are answered.  Objects have names, separately
for each sort.  A subscription is made with a script: the actions that its callback performs, each of which
may depend on the message.
-/

namespace PubSub

inductive Owning where
  | context
  | node
  | publisher
  | subscription
  deriving DecidableEq, Repr, Inhabited

inductive Draft where
  | given (datum : Datum)
  | plus (summand : Int)
  | followedBy (tail : Bytes)
  deriving DecidableEq, Repr, Inhabited

/--
When a step of a script is performed, and whether what it raises leaves the callback.  What comes of a step
that may so leave is not recorded.
-/
structure Guard where
  only : Option Bytes
  below : Option Int
  raises : Bool
  deriving DecidableEq, Repr, Inhabited

def Guard.allows (guard : Guard) (message : Payload) : Bool :=
  guard.only.all (fun wanted => wanted == message.legible) &&
    guard.below.all (fun limit => message.number?.any (fun value => value.toInt < limit))

/--
What users do.  An action that cannot be read is refused with a message, but an object that it needs is
looked for before that.
-/
inductive Action where
  | makeContext (name : String) (arguments : List Bytes)
  | copyContext (name source : String)
  | contextIsValid (context : String)
  | nodeContextIsValid (node : String)
  | shutdown (context : String)
  | makeNode (name context : String) (nodeName space : Bytes)
  | nodeInfo (node : String)
  | live (node : String)
  | makePublisher (name node : String) (kind : MessageKind) (topic : Bytes) (qos : Qos)
  | makeSubscription (name node : String) (kind : MessageKind) (topic : Bytes) (qos : Qos)
      (registered : Bool) (script : List (Guard × Action))
  | copyPublisher (name source : String)
  | publish (publisher : String) (draft : Draft)
  | publishRange (publisher : String) (first last : Int)
  | take (subscription : String)
  | takeAll (subscription : String)
  | dispatch (subscription : String)
  | handleForeign (subscription : String) (kind : MessageKind)
  | info (sort : Owning) (name : String)
  | countSubscriptions (publisher : String)
  | countPublishers (subscription : String)
  | drop (sort : Owning) (name : String)
  | dropExecutor (executor : String)
  | alive
  | makeExecutor (name context : String) (threads : Nat)
  | addNode (executor : String) (node : Option String)
  | isRunning (executor : String)
  | stop (executor : String)
  | spin (executor : String)
  | spinOnce (executor : String)
  | work (executor : String) (untilCalls : Option Nat) (during : Option (List Action)) (destroy : Bool)
  | finiNativeNode (node : String)
  | faults
  | counters
  | refuseCopies (count : Nat)
  | throwUser (message : Bytes)
  | refuse (needed : Option (Owning × String)) (message : Bytes)

instance : Inhabited Action := ⟨.alive⟩

abbrev Script := List (Guard × Action)

def Action.isThrow : Action → Bool
  | throwUser _ => true
  | _ => false

def Guard.leaves (guard : Guard) (action : Action) : Bool :=
  guard.raises || action.isThrow

/-- A draft within a callback that handles a message: a text, which numeric kinds read as a number. -/
def Draft.within (message : Payload) : Draft → Draft
  | given datum => .given datum
  | plus summand =>
      match message.number? with
      | some value => .given (.text (Bytes.ofInt (value + Int64.ofInt summand).toInt))
      | none => .plus summand
  | followedBy tail => .given (.text (message.written ++ tail))

def Action.within (message : Payload) : Action → Action
  | publish publisher draft => .publish publisher (draft.within message)
  | action => action

inductive Answer where
  | done
  | sameHandle (same : Bool)
  | valid (valid : Bool)
  | node (name space full : Bytes)
  | live (kinds : List Bytes)
  | topic (name : Bytes)
  | message (payload : Option Payload)
  | messages (payloads : List Payload)
  | taken (taken : Bool)
  | info (topic : Option Bytes) (kind : Bytes)
  | count (number : Nat)
  | alive (handles : List ((Owning × String) × Bool))
  | running (running : Bool)
  | dispatched (number : Nat)
  | worked (during : Option (List (Except Raised Answer))) (timedOut : Bool) (stopped : Option Raised)
      (running : Option Bool)
  | status (status : Status)
  | faults (number : Nat)
  | counters (calls : Calls)

instance : Inhabited Answer := ⟨.done⟩

structure CallbackRun where
  subscription : String
  message : Payload
  answers : List (Except Raised Answer)

end PubSub
