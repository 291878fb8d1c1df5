import PubSub.Middleware.Basic
import PubSub.Proofs.Names.FullTopics

/-!
Keys of topics.  A full topic name begins with a slash and has no line break, so a key tells whether the name is
marked, where the name ends, and what type follows it, whatever the type is called.
-/

namespace PubSub

open Name (IsFullTopic)

namespace Middleware

def marked (topicName : Bytes) (plainTopic : Bool) : Bytes :=
  if plainTopic then topicName else Bytes.ofString "rt" ++ topicName

theorem topicKey_eq (topicName : Bytes) (plainTopic : Bool) (kind : MessageKind) :
    topicKey topicName plainTopic kind = marked topicName plainTopic ++ 10 :: kind.typeName := rfl

variable {first second : Bytes} {plain other : Bool}

theorem marked_injective (full : IsFullTopic first) (also : IsFullTopic second)
    (same : marked first plain = marked second other) : first = second ∧ plain = other := by
  have apart : ∀ name tail : Bytes, IsFullTopic name → name ≠ Bytes.ofString "rt" ++ tail := by
    rintro name tail absolute rfl
    cases absolute.bytes.1
  cases plain with
  | true =>
      cases other with
      | true => exact ⟨same, rfl⟩
      | false => exact absurd same (apart first second full)
  | false =>
      cases other with
      | true => exact absurd same.symm (apart second first also)
      | false => exact ⟨List.append_cancel_left same, rfl⟩

theorem no_line_marked (full : IsFullTopic first) : 10 ∉ marked first plain := by
  unfold marked
  intro member
  split at member
  · exact full.no_line member
  · rcases List.mem_append.1 member with mark | inside
    · exact absurd mark (by decide)
    · exact full.no_line inside

/-- Two keys are the same only if names, marks and names of types are. -/
theorem key_injective (full : IsFullTopic first) (also : IsFullTopic second) {typeName otherType : Bytes}
    (same : marked first plain ++ 10 :: typeName = marked second other ++ 10 :: otherType) :
    first = second ∧ plain = other ∧ typeName = otherType := by
  obtain ⟨names, types⟩ := Bytes.split_mark (no_line_marked full) (no_line_marked also) same
  obtain ⟨name, mark⟩ := marked_injective full also names
  exact ⟨name, mark, types⟩

end Middleware

end PubSub
