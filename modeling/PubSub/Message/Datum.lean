import PubSub.Message.Kind

/-!
Data as users write it, read as a message of some kind: a number, a text, bytes, or something that is none
of these and fits no kind.  A text kind reads texts and bytes.  A numeric kind reads numbers and texts that
are a number in decimal, but no bytes.
-/

namespace PubSub

inductive Datum where
  | number (value : Int)
  | text (bytes : Bytes)
  | raw (bytes : Bytes)
  | other
  deriving DecidableEq, Repr, Inhabited

inductive Expected where
  | text
  | number
  deriving DecidableEq, Repr, Inhabited

namespace Datum

def digit? (byte : UInt8) : Option Nat :=
  if 48 ≤ byte ∧ byte ≤ 57 then some (byte.toNat - 48) else none

def digits? (read : Nat) : Bytes → Option Nat
  | [] => some read
  | byte :: rest =>
      match digit? byte with
      | some digit => digits? (read * 10 + digit) rest
      | none => none

def decimal? : Bytes → Option Int
  | [] => none
  | [45] => none
  | 45 :: rest => (digits? 0 rest).map (fun number => -(number : Int))
  | bytes => (digits? 0 bytes).map (fun number => (number : Int))

def word? (number : Int) : Option Int64 :=
  if Int64.minValue.toInt ≤ number ∧ number ≤ Int64.maxValue.toInt then some (Int64.ofInt number)
  else none

def number? : Datum → Option Int64
  | number value => word? value
  | text bytes => (decimal? bytes).bind word?
  | raw _ => none
  | other => none

def payload (kind : MessageKind) (datum : Datum) : Except Expected Payload :=
  if kind.isNumeric then
    match datum.number? with
    | some value => .ok (.number value)
    | none => .error .number
  else
    match datum with
    | text bytes => .ok (.text bytes)
    | raw bytes => .ok (.text bytes)
    | number _ => .error .text
    | other => .error .text

end Datum

def Bytes.ofInt (number : Int) : Bytes :=
  if number < 0 then 45 :: Bytes.ofNat number.natAbs else Bytes.ofNat number.natAbs

def Payload.written : Payload → Bytes
  | .number value => Bytes.ofInt value.toInt
  | .text bytes => bytes

def Payload.legible (payload : Payload) : Bytes :=
  if (Bytes.text? payload.written).isSome then payload.written else []

def Payload.number? : Payload → Option Int64
  | .number value => some value
  | .text bytes => (Datum.text bytes).number?

end PubSub
