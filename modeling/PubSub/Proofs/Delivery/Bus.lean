import PubSub.Middleware.Workspace
import PubSub.Proofs.Delivery.Alike
import PubSub.Proofs.Delivery.Queue

/-!
A bus of lists: what publishing and taking come to for those who call the middleware.  The bus knows nothing
of samples, endpoints and topics; it has senders and receivers in order of registration, and for each of them
a list of payloads.
-/

namespace PubSub

theorem Bytes.digit_of_mem_ofNat {byte : UInt8} {count : Nat} (member : byte ∈ Bytes.ofNat count) :
    48 ≤ byte ∧ byte ≤ 57 := by
  unfold ofNat ofString Nat.repr at member
  rw [String.toList_ofList] at member
  obtain ⟨letter, listed, encoded⟩ := List.mem_flatMap.mp member
  have digit := Nat.isDigit_of_mem_toDigits (by decide) (by decide) listed
  simp only [Char.isDigit, Bool.and_eq_true, decide_eq_true_eq, ge_iff_le,
    UInt32.le_iff_toNat_le] at digit
  have short : letter.utf8Size = 1 := by
    unfold Char.utf8Size
    rw [if_pos]
    rw [UInt32.le_iff_toNat_le]
    exact Nat.le_trans digit.2 (by decide)
  rw [String.utf8EncodeChar_eq_singleton short, List.mem_singleton] at encoded
  have value : byte.toNat = letter.val.toNat := by
    rw [encoded]
    refine (UInt32.toNat_toUInt8 letter.val).trans (Nat.mod_eq_of_lt ?_)
    exact Nat.lt_of_le_of_lt digit.2 (by decide)
  rw [UInt8.le_iff_toNat_le, UInt8.le_iff_toNat_le, value]
  exact digit

theorem MessageKind.not_mem_typeName (kind : MessageKind) : 10 ∉ kind.typeName := by
  cases kind with
  | int64 => decide
  | text => decide
  | boundedText bound =>
      intro member
      rcases List.mem_append.1 member with fixed | digits
      · exact absurd fixed (by decide)
      · exact absurd (Bytes.digit_of_mem_ofNat digits).1 (by decide)
  | counted => decide

/-- What endpoints must have in common: the topic, and the type of message, whose name has no line break. -/
structure Channel where
  topic : Bytes
  typeName : Bytes
  line : 10 ∉ typeName
  deriving DecidableEq

namespace Channel

def of (topic : Bytes) (plainTopic : Bool) (kind : MessageKind) : Channel :=
  { topic := if plainTopic then topic else Bytes.ofString "rt" ++ topic
    typeName := kind.typeName
    line := kind.not_mem_typeName }

/-- Topic and type in one key, with a line break between them. -/
def key (channel : Channel) : Bytes :=
  channel.topic ++ 10 :: channel.typeName

/-- The last line break of a key is the one before the type. -/
theorem key_injective {first second : Channel} (same : first.key = second.key) : first = second := by
  obtain ⟨topic, typeName, line⟩ := first
  obtain ⟨otherTopic, otherName, otherLine⟩ := second
  unfold key at same
  dsimp only at same line otherLine
  have both : topic = otherTopic ∧ typeName = otherName := by
    rcases List.append_eq_append_iff.1 same with ⟨more, longer, rest⟩ | ⟨more, longer, rest⟩
    · cases more with
      | nil =>
          rw [List.nil_append, List.cons.injEq] at rest
          exact ⟨(longer.trans (List.append_nil _)).symm, rest.2⟩
      | cons byte more =>
          rw [List.cons_append, List.cons.injEq] at rest
          exact absurd (rest.2 ▸ List.mem_append_right more List.mem_cons_self) line
    · cases more with
      | nil =>
          rw [List.nil_append, List.cons.injEq] at rest
          exact ⟨longer.trans (List.append_nil _), rest.2.symm⟩
      | cons byte more =>
          rw [List.cons_append, List.cons.injEq] at rest
          exact absurd (rest.2 ▸ List.mem_append_right more List.mem_cons_self) otherLine
  obtain ⟨rfl, rfl⟩ := both
  rfl

end Channel

structure Sender where
  channel : Channel
  kind : MessageKind
  qos : Qos
  history : List Payload
  deriving DecidableEq

/-- A subscription: all that ever came for it, what was taken from it, and what waits. -/
structure Receiver where
  channel : Channel
  qos : Qos
  arrived : List Payload
  taken : List Payload
  pending : List Payload
  deriving DecidableEq

def Sender.remember (sender : Sender) (payload : Payload) : Sender :=
  if sender.qos.isTransientLocal then
    { sender with history := sender.qos.newest (sender.history ++ [payload]) }
  else sender

@[simp] theorem Sender.channel_remember (sender : Sender) (payload : Payload) :
    (sender.remember payload).channel = sender.channel := by
  unfold remember
  split <;> rfl

@[simp] theorem Sender.kind_remember (sender : Sender) (payload : Payload) :
    (sender.remember payload).kind = sender.kind := by
  unfold remember
  split <;> rfl

/-- Whether what a publisher sends is for a subscription. -/
def Sender.reaches (sender : Sender) (receiver : Receiver) : Bool :=
  sender.channel = receiver.channel && sender.qos.compatible receiver.qos

namespace Receiver

def isFull (receiver : Receiver) : Bool :=
  receiver.qos.history = .keepLast && receiver.qos.depth.toNat ≤ receiver.pending.length

/-- A payload comes last; where the subscription is full, the oldest is dropped for it. -/
def accept (receiver : Receiver) (payload : Payload) : Receiver :=
  { receiver with
    arrived := receiver.arrived ++ [payload]
    pending :=
      (if receiver.isFull then receiver.pending.tail else receiver.pending) ++ [payload] }

def take (receiver : Receiver) (payload : Payload) : Receiver :=
  { receiver with
    taken := receiver.taken ++ [payload]
    pending := receiver.pending.tail }

end Receiver

structure Bus where
  senders : Table String Sender
  receivers : Table String Receiver

namespace Bus

def empty : Bus :=
  { senders := .empty
    receivers := .empty }

def addSender (bus : Bus) (name : String) (channel : Channel) (kind : MessageKind) (qos : Qos) : Bus :=
  { bus with senders := bus.senders.set name { channel, kind, qos, history := [] } }

/-- What a late subscription is sent: all that the publishers that reach it retain, one after the other. -/
def replayed (bus : Bus) (channel : Channel) (qos : Qos) : List Payload :=
  if qos.isTransientLocal then
    bus.senders.values.flatMap (fun sender =>
      if sender.channel = channel && sender.qos.isTransientLocal && sender.qos.compatible qos then
        sender.history
      else [])
  else []

/-- A subscription comes, and the newest of what it is sent wait for it. -/
def addReceiver (bus : Bus) (name : String) (channel : Channel) (qos : Qos) : Bus :=
  let arrived := bus.replayed channel qos
  { bus with
    receivers :=
      bus.receivers.set name
        { channel, qos, arrived, taken := [], pending := qos.newest arrived } }

/-- A publisher sends a payload to all that it reaches, once each. -/
def send (bus : Bus) (name : String) (sender : Sender) (payload : Payload) : Bus :=
  { senders :=
      bus.senders.map (fun other held => if other = name then held.remember payload else held)
    receivers :=
      bus.receivers.map (fun _ held => if sender.reaches held then held.accept payload else held) }

def take (bus : Bus) (name : String) (payload : Payload) : Bus :=
  { bus with
    receivers :=
      bus.receivers.map (fun other held => if other = name then held.take payload else held) }

def publish (bus : Bus) (name : String) (datum : Datum) : Bus :=
  match bus.senders.get? name with
  | none => bus
  | some sender =>
      match datum.payload sender.kind with
      | .ok payload => bus.send name sender payload
      | .error _ => bus

end Bus

namespace Workspace

def topicOf (workspace : Workspace) : Action → Option Bytes
  | .initPublisher publisher _ _ _ _ =>
      (slot workspace.publishers publisher).join.map PublisherState.topicName
  | .initSubscription subscription _ _ _ _ =>
      (slot workspace.subscriptions subscription).join.map SubscriptionState.topicName
  | _ => none

end Workspace

namespace Bus

/-- What a call comes to, by its answer; calls that fail, and all others, change nothing. -/
def step (bus : Bus) (action : Workspace.Action) (answer : Workspace.Answer) (topic : Option Bytes) :
    Bus :=
  match action, answer, topic with
  | .initPublisher (some name) _ (some (.complete kind)) _ (some qos), .status .ok, some topic =>
      bus.addSender name (.of topic qos.plainTopic kind) kind qos.resolve
  | .finiPublisher (some name) _, .status .ok, _ =>
      { bus with senders := bus.senders.erase name }
  | .publish (some name) (some datum), .status .ok, _ => bus.publish name datum
  | .initSubscription (some name) _ (some (.complete kind)) _ (some qos), .status .ok, some topic =>
      bus.addReceiver name (.of topic qos.plainTopic kind) qos.resolve
  | .finiSubscription (some name) _, .status .ok, _ =>
      { bus with receivers := bus.receivers.erase name }
  | .take (some name) _, .message .ok (some payload), _ => bus.take name payload
  | _, _, _ => bus

/-- What the calls of a run come to, one after the other. -/
def follow (bus : Bus) (workspace : Workspace) : List Workspace.Action → Bus
  | [] => bus
  | action :: rest =>
      let (answer, after) := workspace.step action
      (bus.step action answer (after.topicOf action)).follow after rest

end Bus

end PubSub
