import PubSub.Proofs.Delivery.Payload

/-!
Values of a kind, and the messages that hold them.  A copy takes place if the source holds a value of the kind and
the destination is laid out for one, and then the destination says what the source says, however long the text was
that it held before.
-/

namespace PubSub

theorem TextBuffer.length_contents {buffer : TextBuffer} (whole : (Layout.text buffer).Whole) :
    buffer.contents.length = buffer.size := by
  unfold Layout.Whole capacity at whole
  dsimp only at whole
  unfold contents data?
  cases block : buffer.block with
  | none =>
      rw [block] at whole
      exact (Nat.le_zero.1 whole).symm
  | some bytes =>
      rw [block] at whole
      exact List.length_take_of_le whole

theorem TextBuffer.terminated_store (buffer : TextBuffer) (text : Bytes) :
    (buffer.store text).terminated = true := by
  unfold terminated store
  cases buffer.block <;> simp

def Layout.Terminated : Layout → Prop
  | .number _ => True
  | .text buffer => buffer.terminated = true

namespace MessageKind

variable {kind : MessageKind} {payload : Payload} {source destination copied : Layout}

/-- The values of a kind: a number or a text, and a text within the bound, if there is one. -/
def Admits (kind : MessageKind) : Payload → Prop
  | .number _ => kind.isNumeric = true
  | .text bytes => kind.isNumeric = false ∧ ∀ bound, kind.bound? = some bound → bytes.length ≤ bound

/-- Whether a message is laid out as the messages of a kind are, whatever it holds. -/
def Shapes (kind : MessageKind) : Layout → Prop
  | .number _ => kind.isNumeric = true
  | .text _ => kind.isNumeric = false

theorem shapes_fresh (kind : MessageKind) : kind.Shapes kind.fresh := by
  unfold fresh
  cases numeric : kind.isNumeric with
  | true => exact numeric
  | false => exact numeric

theorem fill_of_admits (shaped : kind.Shapes destination) (admits : kind.Admits payload) :
    (destination.fill payload).Whole ∧ (destination.fill payload).payload = payload ∧
      kind.Shapes (destination.fill payload) := by
  cases destination with
  | number value =>
      cases payload with
      | number other => exact ⟨trivial, rfl, shaped⟩
      | text bytes => cases shaped.symm.trans admits.1
  | text buffer =>
      cases payload with
      | number value => cases shaped.symm.trans admits
      | text bytes =>
          exact ⟨buffer.whole_store bytes, congrArg Payload.text (buffer.contents_store bytes), shaped⟩

theorem terminated_fill (shaped : kind.Shapes destination) (admits : kind.Admits payload) :
    (destination.fill payload).Terminated := by
  cases destination with
  | number value =>
      cases payload with
      | number other => trivial
      | text bytes => cases shaped.symm.trans admits.1
  | text buffer =>
      cases payload with
      | number value => cases shaped.symm.trans admits
      | text bytes => exact buffer.terminated_store bytes

/-- A copy is made of what the kind admits, over what is laid out for it, and it replaces all that was there. -/
theorem copy_eq_some_iff (whole : source.Whole) :
    kind.copy source destination = some copied ↔
      kind.Admits source.payload ∧ kind.Shapes destination ∧
        copied = destination.fill source.payload := by
  cases source with
  | number value =>
      cases destination with
      | number other =>
          unfold copy
          dsimp only
          by_cases numeric : kind.isNumeric = true
          · rw [if_pos numeric, Option.some.injEq]
            exact ⟨fun same => ⟨numeric, numeric, same.symm⟩, fun holds => holds.2.2.symm⟩
          · rw [if_neg numeric]
            exact ⟨nofun, fun holds => absurd holds.1 numeric⟩
      | text buffer => exact ⟨nofun, fun holds => nomatch holds.2.1.symm.trans holds.1⟩
  | text buffer =>
      cases destination with
      | number other => exact ⟨nofun, fun holds => nomatch holds.2.1.symm.trans holds.1.1⟩
      | text target =>
          have length : buffer.contents.length = buffer.size := TextBuffer.length_contents whole
          unfold copy
          dsimp only
          rw [TextBuffer.copyFrom_eq whole]
          cases numeric : kind.isNumeric with
          | true => exact ⟨nofun, fun holds => nomatch numeric.symm.trans holds.1.1⟩
          | false =>
              rw [if_neg Bool.false_ne_true]
              have within : kind.Admits (.text buffer.contents) ↔
                  ¬kind.bound?.any (fun bound => bound < buffer.size) = true := by
                unfold Admits
                dsimp only
                rw [length]
                cases kind.bound? with
                | none => exact ⟨fun _ => nofun, fun _ => ⟨numeric, nofun⟩⟩
                | some bound =>
                    rw [Option.any_some, decide_eq_true_iff, Nat.not_lt]
                    refine ⟨fun admits => admits.2 bound rfl, fun short => ⟨numeric, ?_⟩⟩
                    rintro other ⟨⟩
                    exact short
              by_cases long : kind.bound?.any (fun bound => bound < buffer.size) = true
              · rw [if_pos long]
                exact ⟨nofun, fun holds => absurd long (within.1 holds.1)⟩
              · rw [if_neg long, Option.some.injEq]
                exact ⟨fun same => ⟨within.2 long, numeric, same.symm⟩, fun holds => holds.2.2.symm⟩

theorem accept_of_admits (admits : kind.Admits payload) : kind.accept payload = .ok payload := by
  cases kind with
  | boundedText bound =>
      cases payload with
      | number value => cases admits
      | text bytes =>
          unfold accept BoundedText.ofBytes
          dsimp only
          rw [dif_pos (admits.2 bound rfl)]
  | _ => rfl

theorem admits_of_accept {accepted : Payload} {datum : Datum} (fits : datum.payload kind = .ok payload)
    (bounded : kind.accept payload = .ok accepted) : accepted = payload ∧ kind.Admits payload := by
  unfold Datum.payload at fits
  by_cases numeric : kind.isNumeric = true
  · rw [if_pos numeric] at fits
    split at fits
    · cases fits
      cases kind with
      | boundedText bound => cases numeric
      | _ =>
          cases bounded
          exact ⟨rfl, numeric⟩
    · cases fits
  · rw [if_neg numeric] at fits
    have textual : kind.isNumeric = false := Bool.eq_false_iff.2 numeric
    have text : ∃ bytes, payload = .text bytes := by
      split at fits
      · cases fits
        exact ⟨_, rfl⟩
      · cases fits
        exact ⟨_, rfl⟩
      · cases fits
      · cases fits
    obtain ⟨bytes, rfl⟩ := text
    cases kind with
    | boundedText bound =>
        unfold accept BoundedText.ofBytes at bounded
        dsimp only at bounded
        by_cases short : bytes.length ≤ bound
        · rw [dif_pos short] at bounded
          cases bounded
          refine ⟨rfl, rfl, ?_⟩
          rintro other ⟨⟩
          exact short
        · rw [dif_neg short] at bounded
          cases bounded
    | _ =>
        cases bounded
        exact ⟨rfl, textual, nofun⟩

/-- A value is what its own message says. -/
theorem decode_encode (admits : kind.Admits payload) : kind.decode (kind.encode payload) = .ok payload := by
  obtain ⟨_, reads, _⟩ := fill_of_admits kind.shapes_fresh admits
  unfold decode encode
  rw [reads]
  exact accept_of_admits admits

end MessageKind

end PubSub
