/-!
Quality of service: what a publisher offers and a subscription requests.
-/

namespace PubSub

inductive History where
  | systemDefault
  | keepLast
  | keepAll
  deriving DecidableEq, Repr, Inhabited

inductive Reliability where
  | systemDefault
  | reliable
  | bestEffort
  deriving DecidableEq, Repr, Inhabited

inductive Durability where
  | systemDefault
  | transientLocal
  | volatile
  deriving DecidableEq, Repr, Inhabited

/-- A quality-of-service profile.  The depth is a machine word. -/
structure Qos where
  history : History
  depth : UInt64
  reliability : Reliability
  durability : Durability
  plainTopic : Bool
  deriving DecidableEq, Repr, Inhabited

namespace Qos

/-- The depth of a keep-last profile that leaves its depth to the system. -/
def defaultDepth : UInt64 := 10

def standard : Qos :=
  { history := .keepLast
    depth := defaultDepth
    reliability := .reliable
    durability := .volatile
    plainTopic := false }

def sensorData : Qos :=
  { standard with
    depth := 5
    reliability := .bestEffort }

def parameters : Qos :=
  { standard with depth := 1000 }

def services : Qos := standard

def parameterEvents : Qos :=
  { standard with
    history := .keepAll
    depth := 1000 }

def system : Qos :=
  { history := .systemDefault
    depth := 0
    reliability := .systemDefault
    durability := .systemDefault
    plainTopic := false }

/-- Replaces every policy that is left to the system by the one the transport uses. -/
def resolve (qos : Qos) : Qos :=
  let history := if qos.history = .systemDefault then .keepLast else qos.history
  { qos with
    history := history
    depth := if history = .keepLast ∧ qos.depth = 0 then defaultDepth else qos.depth
    reliability := if qos.reliability = .systemDefault then .reliable else qos.reliability
    durability := if qos.durability = .systemDefault then .volatile else qos.durability }

/-- Whether what is offered meets what is requested. -/
def compatible (offered requested : Qos) : Bool :=
  !(offered.reliability = .bestEffort && requested.reliability = .reliable) &&
    !(offered.durability = .volatile && requested.durability = .transientLocal)

/-- Whether a publisher of this profile keeps samples for late subscriptions. -/
def isTransientLocal (qos : Qos) : Bool :=
  qos.durability = .transientLocal

end Qos

end PubSub
