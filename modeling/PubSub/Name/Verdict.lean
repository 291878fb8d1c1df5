import PubSub.Bytes

/-!
What can be said against a name: one verdict per rule, its number and its wording.
-/

namespace PubSub.Name

inductive Verdict where
  | valid
  | emptyName
  | notAbsolute
  | endsWithSlash
  | unallowedByte
  | repeatedSlash
  | startsWithDigit
  | misplacedTilde
  | unmatchedBrace
  | tooLong
  deriving DecidableEq, Repr, Inhabited

namespace Verdict

def code : Verdict → Nat
  | valid => 0
  | emptyName => 1
  | notAbsolute => 2
  | endsWithSlash => 3
  | unallowedByte => 4
  | repeatedSlash => 5
  | startsWithDigit => 6
  | misplacedTilde => 7
  | unmatchedBrace => 8
  | tooLong => 9

def ofCode? : Int → Option Verdict
  | 0 => some valid
  | 1 => some emptyName
  | 2 => some notAbsolute
  | 3 => some endsWithSlash
  | 4 => some unallowedByte
  | 5 => some repeatedSlash
  | 6 => some startsWithDigit
  | 7 => some misplacedTilde
  | 8 => some unmatchedBrace
  | 9 => some tooLong
  | _ => none

theorem ofCode?_code (verdict : Verdict) : ofCode? verdict.code = some verdict := by
  cases verdict <;> rfl

def text : Verdict → Bytes
  | valid => Bytes.ofString "name is valid"
  | emptyName => Bytes.ofString "name must not be empty"
  | notAbsolute => Bytes.ofString "name must be absolute, it must lead with a '/'"
  | endsWithSlash => Bytes.ofString "name must not end with a '/'"
  | unallowedByte =>
      Bytes.ofString
        "name contains characters outside of alphanumerics, '_', '/', '~', '\x7b' and '\x7d'"
  | repeatedSlash => Bytes.ofString "name must not contain repeated '/'"
  | startsWithDigit => Bytes.ofString "name tokens must not start with a number"
  | misplacedTilde => Bytes.ofString "'~' must be the first character and be followed by a '/'"
  | unmatchedBrace => Bytes.ofString "substitution braces must be balanced"
  | tooLong => Bytes.ofString "name is too long"

def textOfCode (number : Int) : Bytes :=
  match ofCode? number with
  | some verdict => verdict.text
  | none => Bytes.ofString "unknown validation result"

end Verdict

structure Finding where
  verdict : Verdict
  index : Nat
  deriving DecidableEq, Repr, Inhabited

def Finding.clean : Finding :=
  { verdict := .valid
    index := 0 }

end PubSub.Name
