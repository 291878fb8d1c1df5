import PubSub.Middleware.Workspace
import PubSub.Proofs.Names.Template

/-!
What topics expand to.  A topic that passes its check expands to the completion of the one template that writes it,
where every key stands for something and the completion is a full topic name; every other topic is refused.
-/

namespace PubSub.Name

variable {owner : Owner} {template : Template} {name topic full : Bytes}

/-- A node whose name and namespace pass their checks. -/
structure Owner.Settled (owner : Owner) : Prop where
  named : (checkNodeName owner.name).verdict = .valid
  placed : (checkNamespace owner.space).verdict = .valid

def Ordinary (name : Bytes) : Prop :=
  ∀ byte ∈ name, byte = slash ∨ byte ∈ tokenBytes

theorem Ordinary.openBrace_notMem (ordinary : Ordinary name) : openBrace ∉ name := by
  intro member
  rcases ordinary openBrace member with slashed | token
  · exact absurd slashed (by decide)
  · exact openBrace_notMem_tokenBytes token

theorem Ordinary.hasNul (ordinary : Ordinary name) : name.hasNul = false := by
  simp only [Bytes.hasNul, List.any_eq_false, beq_iff_eq]
  rintro byte member rfl
  rcases ordinary 0 member with slashed | token
  · exact absurd slashed (by decide)
  · exact absurd token (by decide +kernel)

theorem Owner.Settled.ordinary_name (settled : owner.Settled) : Ordinary owner.name := by
  have member := (checkNodeName_valid_iff.1 settled.named).1
  intro byte inside
  cases content : owner.name with
  | nil => exact absurd inside (by simp [content])
  | cons first rest =>
      rw [content] at member inside
      obtain ⟨starter, tokens⟩ := cons_mem_token.1 member
      rcases List.mem_cons.1 inside with rfl | later
      · exact .inr ((mem_starters_iff _).1 starter).1
      · exact .inr (tokens byte later)

theorem Owner.Settled.space_full (settled : owner.Settled) : owner.space = root ∨ IsFullTopic owner.space := by
  rcases checkNamespace_valid_iff.1 settled.placed with top | ⟨member, length⟩
  · exact .inl top
  · exact .inr (checkFullTopic_valid_iff.2 ⟨member, Nat.le_trans length (by decide)⟩)

theorem Owner.Settled.ordinary_space (settled : owner.Settled) : Ordinary owner.space := by
  intro byte inside
  rcases settled.space_full with top | full
  · obtain rfl := List.mem_singleton.1 (top ▸ inside)
    exact .inl rfl
  · rcases full.bytes.2 byte inside with slashed | token
    · exact .inl slashed
    · exact .inr ((isTokenByte_iff byte).1 token)

theorem Owner.Settled.openBrace_notMem (settled : owner.Settled) : openBrace ∉ owner.base ++ owner.name := by
  have space := settled.ordinary_space.openBrace_notMem
  have name := settled.ordinary_name.openBrace_notMem
  unfold Owner.base
  split
  · simp [root, name, show openBrace ≠ slash by decide]
  · simp [space, name, show openBrace ≠ slash by decide]

theorem Owner.join_eq (owner : Owner) (rest : Bytes) : join owner.space rest = owner.base ++ rest := by
  unfold join Owner.base
  split
  · rfl
  · rw [List.append_assoc]
    rfl

theorem Owner.complete_eq (owner : Owner) (template : Template) :
    owner.complete template =
      owner.absolute (owner.lead template ++ owner.fill template.pieces) := by
  unfold Owner.complete Owner.absolute
  rw [Owner.join_eq]

theorem Owner.withoutTilde_of_ne (other : topic.head? ≠ some tilde) : owner.withoutTilde topic = topic := by
  cases topic with
  | nil => rfl
  | cons byte rest => exact if_neg (fun same => other (congrArg some same))

theorem Owner.withoutTilde_text (owner : Owner) (template : Template) :
    owner.withoutTilde template.text =
      owner.lead template ++ template.pieces.flatMap Piece.text := by
  obtain ⟨tilded, pieces, plain⟩ := template
  cases tilded with
  | true =>
      have led : owner.withoutTilde (tilde :: pieces.flatMap Piece.text) =
          owner.fullName ++ pieces.flatMap Piece.text := rfl
      exact led.trans (congrArg (· ++ _) (owner.join_eq owner.name))
  | false =>
      simp only [Template.text, Owner.lead, Bool.false_eq_true, ↓reduceIte, List.nil_append]
      exact Owner.withoutTilde_of_ne (head?_text_ne_tilde plain)

theorem Owner.Settled.substitute_template (settled : owner.Settled) (template : Template) :
    substitute owner none (owner.withoutTilde template.text) =
      (substitute owner none (template.pieces.flatMap Piece.text)).after (owner.lead template) := by
  rw [Owner.withoutTilde_text]
  refine substitute_append ?_ _
  unfold Owner.lead
  split
  · exact settled.openBrace_notMem
  · exact List.not_mem_nil

/-- With keys that are known, all that is left to ask is whether the completion is a full topic name. -/
theorem Owner.Settled.expand_of_known (settled : owner.Settled) (accepted : (checkTopic template.text).verdict = .valid)
    (known : Known template.pieces) :
    owner.expand template.text =
      if (checkFullTopic (owner.complete template)).verdict = .valid then .expanded (owner.complete template)
      else .rejected (.invalidExpandedTopic (owner.complete template)
        (checkFullTopic (owner.complete template)).verdict) := by
  have replaced := settled.substitute_template template
  rw [substitute_of_known template.plain known] at replaced
  rw [Owner.complete_eq]
  exact Owner.expand_of_finished accepted replaced

theorem Owner.Settled.expand_of_not_known (settled : owner.Settled)
    (accepted : (checkTopic template.text).verdict = .valid) (unknown : ¬ Known template.pieces) :
    ∃ key, owner.expand template.text = .rejected (.unknownSubstitution key template.text) := by
  have replaced := settled.substitute_template template
  obtain ⟨key, stopped⟩ := @substitute_of_not_known owner _ template.plain unknown
  rw [stopped] at replaced
  exact ⟨key, Owner.expand_of_unknown accepted replaced⟩

/--
A full topic name that a topic stands for: the topic passes its check, all keys of the template that writes it stand
for something, and the template is completed to that name.
-/
def Owner.Completes (owner : Owner) (topic full : Bytes) : Prop :=
  (check .topic topic).verdict = .valid ∧
    ∃ template : Template, template.text = topic ∧ Known template.pieces ∧
      full = owner.complete template ∧ full ∈ Kind.fullTopic.grammar

theorem existsUnique_template (accepted : (check .topic topic).verdict = .valid) :
    ∃! template : Template, template.text = topic := by
  obtain ⟨template, text⟩ := (checkTopic_valid_iff.1 accepted).exists_template
  exact ⟨template, text, fun other also => Template.text_injective (also.trans text.symm)⟩

theorem Owner.Settled.expand_eq_expanded (settled : owner.Settled) :
    owner.expand topic = .expanded full ↔ owner.Completes topic full := by
  by_cases accepted : (checkTopic topic).verdict = .valid
  · obtain ⟨template, rfl⟩ := (checkTopic_valid_iff.1 accepted).exists_template
    have only : owner.Completes template.text full ↔
        Known template.pieces ∧ full = owner.complete template ∧ full ∈ Kind.fullTopic.grammar := by
      constructor
      · rintro ⟨_, other, text, completed⟩
        obtain rfl := Template.text_injective text
        exact completed
      · intro completed
        exact ⟨accepted, template, rfl, completed⟩
    have grammar : full ∈ Kind.fullTopic.grammar ↔ (checkFullTopic full).verdict = .valid :=
      checkFullTopic_valid_iff.symm
    rw [only, grammar]
    by_cases known : Known template.pieces
    · rw [settled.expand_of_known accepted known]
      split
      · rename_i valid
        rw [Expansion.expanded.injEq, eq_comm]
        exact ⟨fun same => ⟨known, same, same ▸ valid⟩, fun completed => completed.2.1⟩
      · rename_i invalid
        refine iff_of_false nofun ?_
        rintro ⟨_, rfl, valid⟩
        exact invalid valid
    · obtain ⟨key, rejected⟩ := settled.expand_of_not_known accepted known
      rw [rejected]
      exact iff_of_false nofun (fun completed => known completed.1)
  · rw [Owner.expand_of_refused accepted]
    exact iff_of_false nofun (fun completes => accepted completes.1)

/-- An expansion against valid names comes to an end. -/
theorem Owner.Settled.expand_ne_endless (settled : owner.Settled) (topic key : Bytes) :
    owner.expand topic ≠ .endless key := by
  by_cases accepted : (checkTopic topic).verdict = .valid
  · obtain ⟨template, rfl⟩ := (checkTopic_valid_iff.1 accepted).exists_template
    by_cases known : Known template.pieces
    · rw [settled.expand_of_known accepted known]
      split <;> nofun
    · obtain ⟨other, rejected⟩ := settled.expand_of_not_known accepted known
      rw [rejected]
      nofun
  · rw [Owner.expand_of_refused accepted]
    nofun

end PubSub.Name

namespace PubSub.Workspace

open Name (Owner Template)

theorem answer_expand_owner (workspace : Workspace) (owner : Owner) {topic : Bytes} (free : topic.hasNul = false)
    (freeName : owner.name.hasNul = false) (freeSpace : owner.space.hasNul = false) :
    (workspace.step (.expand (some topic) (some owner.name) (some owner.space) true)).1 =
      match owner.expand topic with
      | .expanded full => .expansion .ok (some full)
      | .rejected fault => .expansion fault.status none
      | .endless _ => .endless := by
  unfold step Middleware.expand
  simp only [Bytes.beforeNul_of_hasNul_false, free, freeName, freeSpace]
  cases owner.expand topic <;> rfl

/--
Against a valid node, the names that a topic stands for are those that it expands to.  There is one at most; where
there is none, the call answers that the topic is invalid, and gives no name.
-/
theorem expands_templates (workspace : Workspace) (owner : Owner) {topic : Bytes} (free : topic.hasNul = false)
    (named : (Name.check .nodeName owner.name).verdict = .valid)
    (placed : (Name.check .nodeNamespace owner.space).verdict = .valid) :
    ((Name.check .topic topic).verdict = .valid → ∃! template : Template, template.text = topic) ∧
      (∀ full, (workspace.step (.expand (some topic) (some owner.name) (some owner.space) true)).1 =
        .expansion .ok (some full) ↔ owner.Completes topic full) ∧
      ((∀ full, ¬ owner.Completes topic full) →
        (workspace.step (.expand (some topic) (some owner.name) (some owner.space) true)).1 =
          .expansion .topicNameInvalid none) := by
  have settled : owner.Settled := ⟨named, placed⟩
  rw [workspace.answer_expand_owner owner free settled.ordinary_name.hasNul settled.ordinary_space.hasNul]
  refine ⟨Name.existsUnique_template, fun full => ?_, fun absent => ?_⟩
  · rw [← settled.expand_eq_expanded]
    cases owner.expand topic <;> simp
  · cases outcome : owner.expand topic with
    | expanded full => exact absurd (settled.expand_eq_expanded.1 outcome) (absent full)
    | rejected fault => exact congrArg (Answer.expansion · none) (Owner.status_of_expand outcome)
    | endless key => exact absurd outcome (settled.expand_ne_endless topic key)

/-- A tilde, a key right after a slash, and one that is put next to other bytes. -/
theorem expands_templates_nested :
    (Bytes.ofString "~/\x7bnode\x7d_1\x7bns\x7d/t").hasNul = false ∧
      (Name.check .nodeName (Bytes.ofString "n")).verdict = .valid ∧
      (Name.check .nodeNamespace (Bytes.ofString "/a/b")).verdict = .valid ∧
      Owner.Completes { name := Bytes.ofString "n", space := Bytes.ofString "/a/b" }
        (Bytes.ofString "~/\x7bnode\x7d_1\x7bns\x7d/t") (Bytes.ofString "/a/b/n/n_1/a/b/t") := by
  have free : (Bytes.ofString "~/\x7bnode\x7d_1\x7bns\x7d/t").hasNul = false := by decide
  have named : (Name.check .nodeName (Bytes.ofString "n")).verdict = .valid := by decide
  have placed : (Name.check .nodeNamespace (Bytes.ofString "/a/b")).verdict = .valid := by decide
  have answers :=
    (expands_templates .empty { name := Bytes.ofString "n", space := Bytes.ofString "/a/b" } free named placed).2.1
  exact ⟨free, named, placed, (answers _).1 (by decide +kernel)⟩

end PubSub.Workspace
