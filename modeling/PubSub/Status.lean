import PubSub.Bytes

/-!
Status codes: what an operation answers, the number of each code and its wording.
-/

namespace PubSub

inductive Status where
  | ok
  | error
  | badAlloc
  | invalidArgument
  | alreadyInit
  | notInit
  | topicNameInvalid
  | alreadyShutdown
  | nodeInvalid
  | nodeInvalidName
  | nodeInvalidNamespace
  | publisherInvalid
  | subscriptionInvalid
  | takeFailed
  deriving DecidableEq, Repr, Inhabited

namespace Status

def code : Status → Int
  | ok => 0
  | error => 1
  | badAlloc => 10
  | invalidArgument => 11
  | alreadyInit => 100
  | notInit => 101
  | topicNameInvalid => 103
  | alreadyShutdown => 106
  | nodeInvalid => 200
  | nodeInvalidName => 201
  | nodeInvalidNamespace => 202
  | publisherInvalid => 300
  | subscriptionInvalid => 400
  | takeFailed => 401

def ofCode : Int → Status
  | 0 => ok
  | 10 => badAlloc
  | 11 => invalidArgument
  | 100 => alreadyInit
  | 101 => notInit
  | 103 => topicNameInvalid
  | 106 => alreadyShutdown
  | 200 => nodeInvalid
  | 201 => nodeInvalidName
  | 202 => nodeInvalidNamespace
  | 300 => publisherInvalid
  | 400 => subscriptionInvalid
  | 401 => takeFailed
  | _ => error

theorem ofCode_code (status : Status) : ofCode status.code = status := by
  cases status <;> rfl

def text : Status → Bytes
  | ok => Bytes.ofString "ok"
  | error => Bytes.ofString "unspecified error"
  | badAlloc => Bytes.ofString "allocation failure"
  | invalidArgument => Bytes.ofString "invalid argument"
  | alreadyInit => Bytes.ofString "already initialized"
  | notInit => Bytes.ofString "not initialized"
  | topicNameInvalid => Bytes.ofString "invalid topic name"
  | alreadyShutdown => Bytes.ofString "already shut down"
  | nodeInvalid => Bytes.ofString "node invalid"
  | nodeInvalidName => Bytes.ofString "invalid node name"
  | nodeInvalidNamespace => Bytes.ofString "invalid node namespace"
  | publisherInvalid => Bytes.ofString "publisher invalid"
  | subscriptionInvalid => Bytes.ofString "subscription invalid"
  | takeFailed => Bytes.ofString "no message available"

end Status

end PubSub
