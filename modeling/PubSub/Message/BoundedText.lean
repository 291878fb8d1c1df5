import PubSub.Bytes

/-!
Texts whose length has an upper bound.  The bound is checked once, when the text is made.
-/

namespace PubSub

structure BoundedText (bound : Nat) where
  bytes : Bytes
  fits : bytes.length ≤ bound
  deriving DecidableEq, Repr

structure Overlong where
  length : Nat
  bound : Nat
  deriving DecidableEq, Repr, Inhabited

def Overlong.message (overlong : Overlong) : Bytes :=
  Bytes.ofString "string of length " ++ Bytes.ofNat overlong.length ++
    Bytes.ofString " exceeds upper bound " ++ Bytes.ofNat overlong.bound

namespace BoundedText

def empty (bound : Nat) : BoundedText bound :=
  { bytes := []
    fits := Nat.zero_le bound }

def ofBytes (bound : Nat) (bytes : Bytes) : Except Overlong (BoundedText bound) :=
  if fits : bytes.length ≤ bound then .ok { bytes, fits }
  else .error { length := bytes.length, bound }

theorem ofBytes_bytes {bound : Nat} (text : BoundedText bound) :
    ofBytes bound text.bytes = .ok text := by
  simp [ofBytes, text.fits]

end BoundedText

end PubSub
