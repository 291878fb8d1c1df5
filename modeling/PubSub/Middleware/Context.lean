import PubSub.Middleware.Basic

/-!
Contexts: initialised from process arguments, shut down once, released by their owner.
-/

namespace PubSub.Middleware

def validate (middleware : Middleware) (kind : Name.Kind) (name : Option Bytes)
    (wantsVerdict : Bool) : Outcome Name.Finding :=
  match name, wantsVerdict with
  | some name, true => (.ok (Name.check kind name.beforeNul), middleware)
  | _, _ =>
      middleware.fail
        (match kind with
        | .nodeName => .missingNameOrVerdict
        | .nodeNamespace => .missingNamespaceOrVerdict
        | .topic => .missingTopicOrVerdict
        | .fullTopic => .missingTopicOrVerdict)

/--
Expands a topic against any name and namespace.  Gives nothing where the expansion does not come to an
end, which only names that are not valid can cause.
-/
def expand (middleware : Middleware) (topic name space : Option Bytes) (wantsOutput : Bool) :
    Option (Outcome Bytes) :=
  match topic, name, space, wantsOutput with
  | some topic, some name, some space, true =>
      let owner : Name.Owner := { name := name.beforeNul, space := space.beforeNul }
      match owner.expand topic.beforeNul with
      | .expanded full => some (.ok full, middleware)
      | .rejected fault => some (middleware.fail fault)
      | .endless _ => none
  | _, _, _, _ => some (middleware.fail .missingExpansionArgument)

def parseArguments (middleware : Middleware) (vector : Option (List (Option Bytes))) (count : Int)
    (wantsOutput : Bool) : Outcome Arguments :=
  if wantsOutput then
    match Arguments.parse vector count with
    | .ok arguments => (.ok arguments, middleware)
    | .error fault => middleware.fail fault
  else middleware.fail .invalidArgumentVector

def initContext (middleware : Middleware) (slot : Option (Slot Nat))
    (vector : Option (List (Option Bytes))) (count : Int) : Outcome Nat :=
  match slot with
  | none => middleware.fail .missingContext
  | some (some _) => middleware.fail .contextAlreadyInitialized
  | some none =>
      match Arguments.parse vector count with
      | .error fault => middleware.fail fault
      | .ok arguments =>
          let (context, transport) := middleware.transport.openContext arguments
          (.ok context, middleware.withTransport transport)

def contextIsValid (middleware : Middleware) (slot : Option (Slot Nat)) : Bool :=
  match slot with
  | some (some context) => middleware.transport.isValid context
  | _ => false

/-- Ends a context; a second time is a failure. -/
def shutdownContext (middleware : Middleware) (slot : Option (Slot Nat)) : Outcome Unit :=
  match slot with
  | some (some context) =>
      if middleware.transport.isValid context then
        (.ok (), middleware.withTransport (middleware.transport.invalidate context))
      else middleware.fail .contextAlreadyShutDown
  | _ => middleware.fail .contextNotInitialized

def finiContext (middleware : Middleware) (slot : Option (Slot Nat)) : Outcome Unit :=
  match slot with
  | none => middleware.fail .missingContext
  | some none => (.ok (), middleware)
  | some (some context) =>
      (.ok (), middleware.withTransport (middleware.transport.invalidate context))

end PubSub.Middleware
