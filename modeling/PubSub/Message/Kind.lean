import PubSub.Message.BoundedText
import PubSub.Message.TextBuffer

/-!
Kinds of messages, the values that users see and the layouts that the middleware copies.
-/

namespace PubSub

/--
A kind of message.  A counted message holds a number like the plain one; it serves to observe the
middleware, and its copies can be made to fail.
-/
inductive MessageKind where
  | int64
  | text
  | boundedText (bound : Nat)
  | counted
  deriving DecidableEq, Repr, Inhabited

inductive Payload where
  | number (value : Int64)
  | text (bytes : Bytes)
  deriving DecidableEq, Repr

instance : Inhabited Payload := ⟨.number 0⟩

inductive Layout where
  | number (value : Int64)
  | text (buffer : TextBuffer)
  deriving DecidableEq, Repr

instance : Inhabited Layout := ⟨.number 0⟩

def Layout.payload : Layout → Payload
  | .number value => .number value
  | .text buffer => .text buffer.contents

def Layout.fill (layout : Layout) (payload : Payload) : Layout :=
  match layout, payload with
  | .number _, .number value => .number value
  | .text buffer, .text bytes => .text (buffer.store bytes)
  | _, _ => layout

namespace MessageKind

def typeName : MessageKind → Bytes
  | int64 => Bytes.ofString "rclpp/msg/Int64"
  | text => Bytes.ofString "rclpp/msg/String"
  | boundedText bound => Bytes.ofString "rclpp/msg/BoundedString" ++ Bytes.ofNat bound
  | counted => Bytes.ofString "test/Counted"

def isNumeric : MessageKind → Bool
  | int64 => true
  | counted => true
  | text => false
  | boundedText _ => false

def fresh (kind : MessageKind) : Layout :=
  if kind.isNumeric then .number 0 else .text .fresh

def bound? : MessageKind → Option Nat
  | boundedText bound => some bound
  | _ => none

/--
Copies one message over another of the same kind.  A text beyond the bound of its kind is refused, and the
destination then stays as it is.
-/
def copy (kind : MessageKind) (source destination : Layout) : Option Layout :=
  match source, destination with
  | .number value, .number _ => if kind.isNumeric then some (.number value) else none
  | .text sourceText, .text destinationText =>
      if kind.isNumeric then none
      else if kind.bound?.any (fun bound => bound < sourceText.size) then none
      else
        match destinationText.copyFrom sourceText with
        | (true, copied) => some (.text copied)
        | (false, _) => none
  | _, _ => none

def accept (kind : MessageKind) (payload : Payload) : Except Overlong Payload :=
  match kind, payload with
  | boundedText bound, .text bytes =>
      match BoundedText.ofBytes bound bytes with
      | .ok bounded => .ok (.text bounded.bytes)
      | .error overlong => .error overlong
  | _, _ => .ok payload

def encode (kind : MessageKind) (payload : Payload) : Layout :=
  kind.fresh.fill payload

/-- The value that a native message holds; a text beyond the bound is no value of its kind. -/
def decode (kind : MessageKind) (layout : Layout) : Except Overlong Payload :=
  kind.accept layout.payload

/--
What the operations of a kind make of two messages: what a fresh one says, whether one was copied over the
other and what that then says, and what one says decoded, and made anew from its value.
-/
structure Trial where
  fresh : Payload
  copied : Bool
  destination : Payload
  decoded : Except Overlong Payload
  encoded : Except Overlong Payload

def trial (kind : MessageKind) (source : Payload) (destination : Option Payload) : Trial :=
  let given := kind.fresh.fill source
  let target := (destination.map kind.fresh.fill).getD kind.fresh
  let copied := kind.copy given target
  { fresh := kind.fresh.payload
    copied := copied.isSome
    destination := (copied.getD target).payload
    decoded := kind.decode given
    encoded := (kind.accept source).map (fun value => (kind.encode value).payload) }

end MessageKind

/--
The description of a kind of message that an endpoint is created with.  One that lacks its name or one of
its operations is of no use.
-/
inductive TypeSupport where
  | complete (kind : MessageKind)
  | incomplete
  deriving DecidableEq, Repr, Inhabited

def TypeSupport.kind? : Option TypeSupport → Option MessageKind
  | some (.complete kind) => some kind
  | _ => none

end PubSub
