import PubSub.Message.Buffer
import PubSub.Message.Datum
import PubSub.Status

/-!
What the client interface raises: failures of the middleware with the operation that met them, values that
do not fit, misused buffers, and what users raise themselves.
-/

namespace PubSub

inductive FailureKind where
  | general
  | initialization
  | nodeCreation
  | publisherCreation
  | subscriptionCreation
  | publish
  | take
  deriving DecidableEq, Repr, Inhabited

inductive Raised where
  | failure (kind : FailureKind) (status : Status) (message : Bytes)
  | overlong (overlong : Overlong)
  | misuse (misuse : MessageBuffer.Misuse)
  | user (message : Bytes)
  | unknownName
  | unfit (expected : Expected)
  | unreadable (message : Bytes)
  deriving DecidableEq, Repr

namespace Raised

def failureText (attempt : Bytes) (status : Status) (reason : Bytes) : Bytes :=
  attempt ++ Bytes.ofString ": " ++ status.text ++
    if reason = [] then [] else Bytes.ofString " (" ++ reason ++ Bytes.ofString ")"

def ofStatus? (kind : FailureKind) (attempt : Bytes) (status : Status) (reason : Bytes) :
    Option Raised :=
  if status = .ok then none
  else some (.failure kind status (failureText attempt status reason))

/-- A name must not hold a zero byte, where the middleware would see its end. -/
def ofZeroByte? (kind : FailureKind) (attempt : Bytes) (status : Status) (value : Bytes) :
    Option Raised :=
  if value.hasNul then
    some (.failure kind status
      (failureText attempt status (Bytes.ofString "embedded null character")))
  else none

def wording : Raised → Bytes
  | failure _ _ message => message.beforeNul
  | overlong refusal => refusal.message
  | misuse what => what.message
  | user message => message.beforeNul
  | unknownName => Bytes.ofString "no such id"
  | unfit .text => Bytes.ofString "expected a string"
  | unfit .number => Bytes.ofString "expected an integer"
  | unreadable message => message

def isTakeFailure : Raised → Bool
  | failure .take _ _ => true
  | _ => false

end Raised

end PubSub
