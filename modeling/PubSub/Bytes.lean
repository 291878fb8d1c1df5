/-!
Byte strings.  Names, topics, arguments and messages are sequences of bytes; nothing here assumes that
they are well-formed text.  Literals are written as strings and encoded once, and a count is written in
decimal without sign or padding.
-/

namespace PubSub

abbrev Bytes := List UInt8

namespace Bytes

def ofString (literal : String) : Bytes :=
  literal.toList.flatMap String.utf8EncodeChar

def ofNat (count : Nat) : Bytes :=
  ofString (Nat.repr count)

def text? (bytes : Bytes) : Option String :=
  String.fromUTF8? bytes.toByteArray

theorem toByteArray_ofString (literal : String) :
    (ofString literal).toByteArray = literal.toByteArray := by
  rw [ofString, ← String.utf8Encode_toList, List.utf8Encode]

theorem text?_ofString (literal : String) : text? (ofString literal) = some literal := by
  unfold text? String.fromUTF8?
  rw [toByteArray_ofString, dif_pos literal.isValidUTF8]
  rfl

/-- What a byte string amounts to where its first zero byte ends it. -/
def beforeNul (bytes : Bytes) : Bytes :=
  bytes.takeWhile (fun byte => byte != 0)

def hasNul (bytes : Bytes) : Bool :=
  bytes.any (fun byte => byte == 0)

theorem beforeNul_of_hasNul_false {bytes : Bytes} (free : hasNul bytes = false) :
    beforeNul bytes = bytes := by
  induction bytes with
  | nil => rfl
  | cons head tail ih =>
      simp only [hasNul, List.any_cons, Bool.or_eq_false_iff, beq_eq_false_iff_ne] at free
      have rest : beforeNul tail = tail := ih (by simpa [hasNul] using free.2)
      unfold beforeNul at rest ⊢
      simp [free.1, rest]

theorem hasNul_beforeNul (bytes : Bytes) : hasNul (beforeNul bytes) = false := by
  induction bytes with
  | nil => rfl
  | cons head tail ih =>
      unfold beforeNul at ih ⊢
      by_cases zero : head = 0
      · simp [zero, hasNul]
      · simp only [List.takeWhile_cons, bne_iff_ne, ne_eq, zero, not_false_eq_true, ↓reduceIte]
        simp only [hasNul, List.any_cons, Bool.or_eq_false_iff, beq_eq_false_iff_ne] at ih ⊢
        exact ⟨zero, ih⟩

/-- What stands before the first occurrence of a byte is told apart from what comes after it. -/
theorem split_mark {mark : UInt8} {first second : Bytes} (clean : mark ∉ first) (also : mark ∉ second)
    {rest others : Bytes} (same : first ++ mark :: rest = second ++ mark :: others) :
    first = second ∧ rest = others := by
  induction first generalizing second with
  | nil =>
      cases second with
      | nil => exact ⟨rfl, (List.cons.inj same).2⟩
      | cons byte more => exact absurd ((List.cons.inj same).1 ▸ List.mem_cons_self) also
  | cons byte tail ih =>
      cases second with
      | nil => exact absurd ((List.cons.inj same).1 ▸ List.mem_cons_self) clean
      | cons other more =>
          obtain ⟨rfl, left⟩ := List.cons.inj same
          obtain ⟨rfl, right⟩ := ih (fun member => clean (List.mem_cons_of_mem byte member))
            (fun member => also (List.mem_cons_of_mem byte member)) left
          exact ⟨rfl, right⟩

end Bytes

end PubSub
