import PubSub.Name.Validation
import PubSub.Status

/-!
Why an operation of the middleware fails.  A cause carries what its wording quotes; `Fault.status` and
`Fault.message` are the only places where codes and wording are chosen.
-/

namespace PubSub

inductive Fault where
  | missingNameOrVerdict
  | missingTopicOrVerdict
  | missingNamespaceOrVerdict
  | missingExpansionArgument
  | invalidTopic (topic : Bytes) (finding : Name.Finding)
  | unknownSubstitution (key topic : Bytes)
  | invalidExpandedTopic (topic : Bytes) (verdict : Name.Verdict)
  | invalidArgumentVector
  | missingArgument (index : Nat)
  | missingRule (flag : Bytes)
  | malformedRule (rule : Bytes)
  | unknownArgument (argument : Bytes)
  | missingContext
  | contextAlreadyInitialized
  | contextNotInitialized
  | contextAlreadyShutDown
  | missingNodeArgument
  | nodeAlreadyInitialized
  | contextNotValid
  | invalidNodeName (name : Bytes) (finding : Name.Finding)
  | invalidNamespace (space : Bytes) (finding : Name.Finding)
  | missingNode
  | nodeNotValid
  | incompleteTypeSupport
  | missingPublisherArgument
  | publisherAlreadyInitialized
  | missingPublisher
  | publisherNotValid
  | missingSubscriptionArgument
  | subscriptionAlreadyInitialized
  | missingSubscription
  | subscriptionNotValid
  | missingMessage
  | messageNotCopied (typeName : Bytes)
  | missingCount
  deriving DecidableEq, Repr, Inhabited

namespace Fault

def status : Fault → Status
  | missingNameOrVerdict => .invalidArgument
  | missingTopicOrVerdict => .invalidArgument
  | missingNamespaceOrVerdict => .invalidArgument
  | missingExpansionArgument => .invalidArgument
  | invalidTopic _ _ => .topicNameInvalid
  | unknownSubstitution _ _ => .topicNameInvalid
  | invalidExpandedTopic _ _ => .topicNameInvalid
  | invalidArgumentVector => .invalidArgument
  | missingArgument _ => .invalidArgument
  | missingRule _ => .invalidArgument
  | malformedRule _ => .invalidArgument
  | unknownArgument _ => .invalidArgument
  | missingContext => .invalidArgument
  | contextAlreadyInitialized => .alreadyInit
  | contextNotInitialized => .notInit
  | contextAlreadyShutDown => .alreadyShutdown
  | missingNodeArgument => .invalidArgument
  | nodeAlreadyInitialized => .alreadyInit
  | contextNotValid => .notInit
  | invalidNodeName _ _ => .nodeInvalidName
  | invalidNamespace _ _ => .nodeInvalidNamespace
  | missingNode => .nodeInvalid
  | nodeNotValid => .nodeInvalid
  | incompleteTypeSupport => .invalidArgument
  | missingPublisherArgument => .invalidArgument
  | publisherAlreadyInitialized => .alreadyInit
  | missingPublisher => .publisherInvalid
  | publisherNotValid => .publisherInvalid
  | missingSubscriptionArgument => .invalidArgument
  | subscriptionAlreadyInitialized => .alreadyInit
  | missingSubscription => .subscriptionInvalid
  | subscriptionNotValid => .subscriptionInvalid
  | missingMessage => .invalidArgument
  | messageNotCopied _ => .error
  | missingCount => .invalidArgument

def findingText (finding : Name.Finding) : Bytes :=
  Bytes.ofString "' is invalid: " ++ finding.verdict.text ++ Bytes.ofString " (index " ++
    Bytes.ofNat finding.index ++ Bytes.ofString ")"

def message : Fault → Bytes
  | missingNameOrVerdict => Bytes.ofString "name and result must not be null"
  | missingTopicOrVerdict => Bytes.ofString "topic and result must not be null"
  | missingNamespaceOrVerdict => Bytes.ofString "namespace and result must not be null"
  | missingExpansionArgument =>
      Bytes.ofString "topic, node name, namespace and output must not be null"
  | invalidTopic topic finding =>
      Bytes.ofString "topic name '" ++ topic ++ findingText finding
  | unknownSubstitution key topic =>
      Bytes.ofString "unknown substitution '\x7b" ++ key ++ Bytes.ofString "\x7d' in topic '" ++
        topic ++ Bytes.ofString "'"
  | invalidExpandedTopic topic verdict =>
      Bytes.ofString "expanded topic name '" ++ topic ++ Bytes.ofString "' is invalid: " ++
        verdict.text
  | invalidArgumentVector => Bytes.ofString "invalid argument vector"
  | missingArgument index =>
      Bytes.ofString "argument " ++ Bytes.ofNat index ++ Bytes.ofString " is null"
  | missingRule flag =>
      Bytes.ofString "'" ++ flag ++ Bytes.ofString "' must be followed by a rule"
  | malformedRule rule =>
      Bytes.ofString "malformed remap rule '" ++ rule ++ Bytes.ofString "', expected from:=to"
  | unknownArgument argument =>
      Bytes.ofString "unknown runtime argument '" ++ argument ++ Bytes.ofString "'"
  | missingContext => Bytes.ofString "context must not be null"
  | contextAlreadyInitialized => Bytes.ofString "context is already initialized"
  | contextNotInitialized => Bytes.ofString "context is not initialized"
  | contextAlreadyShutDown => Bytes.ofString "context is already shut down"
  | missingNodeArgument =>
      Bytes.ofString "node, name, namespace, context and options must not be null"
  | nodeAlreadyInitialized => Bytes.ofString "node is already initialized"
  | contextNotValid => Bytes.ofString "context is not valid"
  | invalidNodeName name finding =>
      Bytes.ofString "node name '" ++ name ++ findingText finding
  | invalidNamespace space finding =>
      Bytes.ofString "namespace '" ++ space ++ findingText finding
  | missingNode => Bytes.ofString "node must not be null"
  | nodeNotValid => Bytes.ofString "node is not valid"
  | incompleteTypeSupport => Bytes.ofString "type support is incomplete"
  | missingPublisherArgument => Bytes.ofString "publisher, topic and options must not be null"
  | publisherAlreadyInitialized => Bytes.ofString "publisher is already initialized"
  | missingPublisher => Bytes.ofString "publisher must not be null"
  | publisherNotValid => Bytes.ofString "publisher is not valid"
  | missingSubscriptionArgument =>
      Bytes.ofString "subscription, topic and options must not be null"
  | subscriptionAlreadyInitialized => Bytes.ofString "subscription is already initialized"
  | missingSubscription => Bytes.ofString "subscription must not be null"
  | subscriptionNotValid => Bytes.ofString "subscription is not valid"
  | missingMessage => Bytes.ofString "message must not be null"
  | messageNotCopied typeName =>
      Bytes.ofString "failed to copy message of type '" ++ typeName ++ Bytes.ofString "'"
  | missingCount => Bytes.ofString "count must not be null"

end Fault

end PubSub
