import PubSub.Proofs.Names.Acceptance

/-!
Topics in pieces.  A topic that passes its check is written by exactly one template, which says whether a tilde leads
and where the keys are.  Filling in a template replaces the tilde and all keys at once.
-/

namespace PubSub.Name

open scoped Computability

inductive Piece where
  | literal (byte : UInt8)
  | key (name : Bytes)
  deriving DecidableEq, Repr

namespace Piece

def text : Piece → Bytes
  | literal byte => [byte]
  | key name => openBrace :: name ++ [closeBrace]

@[simp]
theorem text_literal_append (byte : UInt8) (rest : Bytes) : (literal byte).text ++ rest = byte :: rest := rfl

@[simp]
theorem text_key_append (name rest : Bytes) :
    (key name).text ++ rest = openBrace :: (name ++ closeBrace :: rest) := by
  simp [text]

def Plain : Piece → Prop
  | literal byte => byte ∈ tokenBytes ∨ byte = slash
  | key name => ∀ byte ∈ name, byte ∈ tokenBytes

end Piece

/-- A topic as its user wrote it: whether a tilde leads, and the pieces after it. -/
structure Template where
  tilded : Bool
  pieces : List Piece
  plain : ∀ piece ∈ pieces, piece.Plain

def Template.text (template : Template) : Bytes :=
  (if template.tilded then [tilde] else []) ++ template.pieces.flatMap Piece.text

def keys : List Bytes :=
  [Bytes.ofString "node", Bytes.ofString "ns", Bytes.ofString "namespace"]

def Known (pieces : List Piece) : Prop :=
  ∀ name, .key name ∈ pieces → name ∈ keys

/-- What stands in the place of a piece, which others follow. -/
def Owner.replacement (owner : Owner) (following : List Piece) : Piece → Bytes
  | .literal byte => [byte]
  | .key name =>
      if name = Bytes.ofString "node" then owner.name
      else if owner.space = root ∧ following.head? = some (.literal slash) then []
      else owner.space

def Owner.fill (owner : Owner) : List Piece → Bytes
  | [] => []
  | piece :: following => owner.replacement following piece ++ owner.fill following

def Owner.base (owner : Owner) : Bytes :=
  if owner.space = root then root else owner.space ++ [slash]

/-- What the leading tilde stands for, if there is one. -/
def Owner.lead (owner : Owner) (template : Template) : Bytes :=
  if template.tilded then owner.base ++ owner.name else []

def Owner.complete (owner : Owner) (template : Template) : Bytes :=
  let text := owner.lead template ++ owner.fill template.pieces
  if text.head? = some slash then text else owner.base ++ text

variable {owner : Owner} {pieces others : List Piece} {piece : Piece} {word topic : Bytes}

theorem Piece.Plain.ne_openBrace {byte : UInt8} (plain : (Piece.literal byte).Plain) : byte ≠ openBrace := by
  rintro rfl
  rcases plain with token | slashed
  · exact openBrace_notMem_tokenBytes token
  · exact absurd slashed (by decide)

theorem Piece.Plain.ne_tilde {byte : UInt8} (plain : (Piece.literal byte).Plain) : byte ≠ tilde := by
  rintro rfl
  rcases plain with token | slashed
  · exact tilde_notMem_tokenBytes token
  · exact absurd slashed (by decide)

theorem Piece.Plain.closeBrace_notMem {name : Bytes} (plain : (Piece.key name).Plain) : closeBrace ∉ name :=
  fun member => closeBrace_notMem_tokenBytes (plain closeBrace member)

theorem exists_piece_of_mem (member : word ∈ oneOf tokenBytes + oneOf [slash] + group) :
    ∃ piece : Piece, piece.Plain ∧ piece.text = word := by
  rcases member with (⟨byte, token, rfl⟩ | ⟨byte, slashed, rfl⟩) | grouped
  · exact ⟨.literal byte, .inl token, rfl⟩
  · exact ⟨.literal byte, .inr (List.mem_singleton.1 slashed), rfl⟩
  · obtain ⟨_, ⟨first, opened, rfl⟩, _, ⟨name, tokens, _, ⟨last, closed, rfl⟩, rfl⟩, rfl⟩ := grouped
    obtain rfl := List.mem_singleton.1 opened
    obtain rfl := List.mem_singleton.1 closed
    exact ⟨.key name, mem_oneOf_kstar.1 tokens, rfl⟩

theorem exists_pieces_of_mem_body (member : word ∈ body) :
    ∃ pieces : List Piece, (∀ piece ∈ pieces, piece.Plain) ∧ pieces.flatMap Piece.text = word := by
  obtain ⟨words, rfl, each⟩ := Language.mem_kstar.1 member
  clear member
  induction words with
  | nil => exact ⟨[], nofun, rfl⟩
  | cons first rest ih =>
      obtain ⟨piece, plain, text⟩ := exists_piece_of_mem (each first List.mem_cons_self)
      obtain ⟨pieces, all, texts⟩ := ih (fun other later => each other (List.mem_cons_of_mem first later))
      refine ⟨piece :: pieces, List.forall_mem_cons.2 ⟨plain, all⟩, ?_⟩
      rw [List.flatMap_cons, text, texts, List.flatten_cons]

/-- Every topic that passes its check is the text of a template. -/
theorem IsTopic.exists_template (topical : IsTopic topic) : ∃ template : Template, template.text = topic := by
  obtain ⟨front, leading, rest, member, rfl⟩ := topical.spelled
  obtain ⟨pieces, plain, rfl⟩ := exists_pieces_of_mem_body member
  rcases leading with none | ⟨byte, tilded, rfl⟩
  · obtain rfl := (Language.mem_one front).1 none
    exact ⟨⟨false, pieces, plain⟩, rfl⟩
  · obtain rfl := List.mem_singleton.1 tilded
    exact ⟨⟨true, pieces, plain⟩, rfl⟩

theorem head?_text_eq_slash :
    (pieces.flatMap Piece.text).head? = some slash ↔ pieces.head? = some (.literal slash) := by
  cases pieces with
  | nil => simp
  | cons piece rest =>
      cases piece with
      | literal byte => simp [Piece.text]
      | key name => simp [Piece.text, show openBrace ≠ slash by decide]

theorem head?_text_ne_tilde (plain : ∀ piece ∈ pieces, piece.Plain) :
    (pieces.flatMap Piece.text).head? ≠ some tilde := by
  cases pieces with
  | nil => simp
  | cons piece rest =>
      have first := plain piece List.mem_cons_self
      cases piece with
      | literal byte => simp [Piece.text, first.ne_tilde]
      | key name => simp [Piece.text, show openBrace ≠ tilde by decide]

theorem flatMap_text_injective (plain : ∀ piece ∈ pieces, piece.Plain) (also : ∀ piece ∈ others, piece.Plain)
    (same : pieces.flatMap Piece.text = others.flatMap Piece.text) : pieces = others := by
  induction pieces generalizing others with
  | nil =>
      cases others with
      | nil => rfl
      | cons other more => cases other <;> cases same
  | cons piece rest ih =>
      cases others with
      | nil => cases piece <;> cases same
      | cons other more =>
          obtain ⟨plain, plainRest⟩ := List.forall_mem_cons.1 plain
          obtain ⟨also, alsoMore⟩ := List.forall_mem_cons.1 also
          rw [List.flatMap_cons, List.flatMap_cons] at same
          cases piece with
          | literal byte =>
              cases other with
              | literal other =>
                  obtain ⟨rfl, left⟩ := List.cons.inj same
                  rw [ih plainRest alsoMore left]
              | key name => exact absurd (List.cons.inj same).1 plain.ne_openBrace
          | key name =>
              cases other with
              | literal other => exact absurd (List.cons.inj same).1.symm also.ne_openBrace
              | key other =>
                  rw [Piece.text_key_append, Piece.text_key_append] at same
                  obtain ⟨rfl, left⟩ :=
                    Bytes.split_mark plain.closeBrace_notMem also.closeBrace_notMem (List.cons.inj same).2
                  rw [ih plainRest alsoMore left]

/-- A topic is the text of one template at most. -/
theorem Template.text_injective {template other : Template} (same : template.text = other.text) :
    template = other := by
  obtain ⟨tilded, pieces, plain⟩ := template
  obtain ⟨also, others, plainOthers⟩ := other
  have leads : tilded = also := by
    cases tilded <;> cases also
    · rfl
    · exact absurd (congrArg List.head? same) (head?_text_ne_tilde plain)
    · exact absurd (congrArg List.head? same).symm (head?_text_ne_tilde plainOthers)
    · rfl
  subst leads
  obtain rfl := flatMap_text_injective plain plainOthers (List.append_cancel_left same)
  rfl

theorem Owner.value?_of_mem {name : Bytes} (known : name ∈ keys) (slashFollows : Bool) :
    owner.value? name slashFollows =
      some (if name = Bytes.ofString "node" then owner.name
        else if owner.space = root ∧ slashFollows then [] else owner.space) := by
  unfold Owner.value?
  by_cases node : name = Bytes.ofString "node"
  · rw [if_pos node, if_pos node]
  · have space : name = Bytes.ofString "ns" ∨ name = Bytes.ofString "namespace" := by
      simpa [keys, node] using known
    rw [if_neg node, if_neg node, if_pos space]
    split <;> rfl

theorem Owner.value?_of_notMem {name : Bytes} (unknown : name ∉ keys) (slashFollows : Bool) :
    owner.value? name slashFollows = none := by
  simp only [keys, List.mem_cons, List.not_mem_nil, or_false, not_or] at unknown
  unfold Owner.value?
  rw [if_neg unknown.1, if_neg (not_or.2 unknown.2)]

theorem substitute_literal {byte : UInt8} (other : byte ≠ openBrace) (rest : Bytes) :
    substitute owner none (byte :: rest) = (substitute owner none rest).after [byte] := by
  conv_lhs => unfold substitute
  rw [if_neg other]

@[simp]
theorem Substitution.after_nil (outcome : Substitution) : outcome.after [] = outcome := by
  cases outcome <;> rfl

@[simp]
theorem Substitution.after_after (outcome : Substitution) (first second : Bytes) :
    (outcome.after second).after first = outcome.after (first ++ second) := by
  cases outcome <;> simp [after]

theorem substitute_append {front : Bytes} (closed : openBrace ∉ front) (rest : Bytes) :
    substitute owner none (front ++ rest) = (substitute owner none rest).after front := by
  induction front with
  | nil => simp
  | cons byte more ih =>
      have other : byte ≠ openBrace := fun same => closed (same ▸ List.mem_cons_self)
      have later := ih (fun member => closed (List.mem_cons_of_mem byte member))
      rw [List.cons_append, substitute_literal other, later, Substitution.after_after, List.singleton_append]

theorem substitute_read {name : Bytes} (closed : closeBrace ∉ name) (read rest : Bytes) :
    substitute owner (some read) (name ++ closeBrace :: rest) =
      match owner.value? (read ++ name) (rest.head? = some slash) with
      | some value => (substitute owner none rest).after value
      | none => .unknown (read ++ name) := by
  induction name generalizing read with
  | nil =>
      rw [List.nil_append, List.append_nil]
      conv_lhs => unfold substitute
      exact if_pos rfl
  | cons byte more ih =>
      have other : byte ≠ closeBrace := fun same => closed (same ▸ List.mem_cons_self)
      have later := ih (fun member => closed (List.mem_cons_of_mem byte member)) (read ++ [byte])
      rw [List.cons_append]
      conv_lhs => unfold substitute
      rw [if_neg other, later, List.append_assoc, List.singleton_append]

theorem substitute_closed {name : Bytes} (closed : closeBrace ∉ name) (rest : Bytes) :
    substitute owner none (openBrace :: (name ++ closeBrace :: rest)) =
      match owner.value? name (rest.head? = some slash) with
      | some value => (substitute owner none rest).after value
      | none => .unknown name := by
  conv_lhs => unfold substitute
  rw [if_pos rfl, substitute_read closed, List.nil_append]

theorem known_literal_cons {byte : UInt8} : Known (.literal byte :: pieces) ↔ Known pieces := by
  simp [Known]

theorem known_key_cons {name : Bytes} : Known (.key name :: pieces) ↔ name ∈ keys ∧ Known pieces := by
  simp [Known, or_imp, forall_and]

/-- All keys are replaced in one pass, and what is put in is not looked at again. -/
theorem substitute_of_known (plain : ∀ piece ∈ pieces, piece.Plain) (known : Known pieces) :
    substitute owner none (pieces.flatMap Piece.text) = .finished (owner.fill pieces) := by
  induction pieces with
  | nil => rfl
  | cons piece rest ih =>
      obtain ⟨first, plainRest⟩ := List.forall_mem_cons.1 plain
      rw [List.flatMap_cons, Owner.fill]
      cases piece with
      | literal byte =>
          rw [Piece.text_literal_append, substitute_literal first.ne_openBrace,
            ih plainRest (known_literal_cons.1 known)]
          rfl
      | key name =>
          obtain ⟨here, later⟩ := known_key_cons.1 known
          rw [Piece.text_key_append, substitute_closed first.closeBrace_notMem, Owner.value?_of_mem here,
            ih plainRest later]
          simp only [head?_text_eq_slash, decide_eq_true_eq]
          rfl

theorem substitute_of_not_known (plain : ∀ piece ∈ pieces, piece.Plain) (unknown : ¬ Known pieces) :
    ∃ key, substitute owner none (pieces.flatMap Piece.text) = .unknown key := by
  induction pieces with
  | nil => exact absurd nofun unknown
  | cons piece rest ih =>
      obtain ⟨first, plainRest⟩ := List.forall_mem_cons.1 plain
      rw [List.flatMap_cons]
      cases piece with
      | literal byte =>
          obtain ⟨key, stopped⟩ := ih plainRest (fun known => unknown (known_literal_cons.2 known))
          rw [Piece.text_literal_append, substitute_literal first.ne_openBrace, stopped]
          exact ⟨key, rfl⟩
      | key name =>
          rw [Piece.text_key_append, substitute_closed first.closeBrace_notMem]
          by_cases here : name ∈ keys
          · obtain ⟨key, stopped⟩ := ih plainRest (fun known => unknown (known_key_cons.2 ⟨here, known⟩))
            rw [Owner.value?_of_mem here, stopped]
            exact ⟨key, rfl⟩
          · rw [Owner.value?_of_notMem here]
            exact ⟨name, rfl⟩

end PubSub.Name
