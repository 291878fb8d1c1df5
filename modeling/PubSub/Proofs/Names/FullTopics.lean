import PubSub.Name.Expansion

/-!
Full topic names.  What passes the check begins with a slash and consists of slashes and bytes of tokens, and
whatever a node resolves a topic to has passed it; a topic that is refused has an invalid name.
-/

namespace PubSub.Name

/-- A name that passes the check of full topic names. -/
def IsFullTopic (topic : Bytes) : Prop :=
  (checkFullTopic topic).verdict = .valid

instance (topic : Bytes) : Decidable (IsFullTopic topic) :=
  inferInstanceAs (Decidable ((checkFullTopic topic).verdict = .valid))

variable {topic : Bytes}

theorem checkAfterSlash_ne_valid {index : Nat} {finding : Finding}
    (found : checkAfterSlash index topic = some finding) : finding.verdict ≠ .valid := by
  unfold checkAfterSlash at found
  split at found
  · cases found
  · split at found
    · cases found
      nofun
    · split at found
      · cases found
        nofun
      · cases found

theorem scanFullTopic_ne_valid {index : Nat} {finding : Finding}
    (found : scanFullTopic index topic = some finding) : finding.verdict ≠ .valid := by
  induction topic generalizing index with
  | nil => cases found
  | cons byte rest ih =>
      unfold scanFullTopic at found
      split at found
      · split at found
        · rename_i after
          cases found
          exact checkAfterSlash_ne_valid after
        · exact ih found
      · split at found
        · exact ih found
        · cases found
          nofun

theorem scanFullTopic_eq_none {index : Nat} (clean : scanFullTopic index topic = none) :
    ∀ byte ∈ topic, byte = slash ∨ isTokenByte byte = true := by
  induction topic generalizing index with
  | nil => nofun
  | cons byte rest ih =>
      unfold scanFullTopic at clean
      intro other member
      rw [List.mem_cons] at member
      split at clean
      · rename_i slashed
        split at clean
        · cases clean
        · rcases member with rfl | member
          · exact .inl slashed
          · exact ih clean other member
      · split at clean
        · rename_i token
          rcases member with rfl | member
          · exact .inr token
          · exact ih clean other member
        · cases clean

theorem IsFullTopic.bytes (full : IsFullTopic topic) :
    topic.head? = some slash ∧ ∀ byte ∈ topic, byte = slash ∨ isTokenByte byte = true := by
  unfold IsFullTopic checkFullTopic at full
  split at full
  · cases full
  · rename_i first rest
    split at full
    · cases full
    · rename_i absolute
      split at full
      · cases full
      · split at full
        · rename_i found
          exact absurd full (scanFullTopic_ne_valid found)
        · rename_i clean
          refine ⟨?_, scanFullTopic_eq_none clean⟩
          rw [List.head?_cons, Decidable.not_not.1 absolute]

theorem IsFullTopic.no_line (full : IsFullTopic topic) : 10 ∉ topic := by
  intro member
  rcases full.bytes.2 10 member with slashed | token
  · cases slashed
  · revert token
    decide

variable {owner : Owner} {text key : Bytes}

theorem Owner.expand_of_refused (refused : (checkTopic topic).verdict ≠ .valid) :
    owner.expand topic = .rejected (.invalidTopic topic (checkTopic topic)) := by
  unfold Owner.expand
  exact if_pos refused

theorem Owner.expand_of_finished (accepted : (checkTopic topic).verdict = .valid)
    (replaced : substitute owner none (owner.withoutTilde topic) = .finished text) :
    owner.expand topic =
      if (checkFullTopic (owner.absolute text)).verdict = .valid then .expanded (owner.absolute text)
      else .rejected (.invalidExpandedTopic (owner.absolute text)
        (checkFullTopic (owner.absolute text)).verdict) := by
  unfold Owner.expand
  simp only [accepted, replaced, ne_eq, not_true_eq_false, ↓reduceIte, ite_not]

theorem Owner.expand_of_unknown (accepted : (checkTopic topic).verdict = .valid)
    (replaced : substitute owner none (owner.withoutTilde topic) = .unknown key) :
    owner.expand topic = .rejected (.unknownSubstitution key topic) := by
  unfold Owner.expand
  simp only [accepted, replaced, ne_eq, not_true_eq_false, ↓reduceIte]

theorem Owner.expand_of_endless (accepted : (checkTopic topic).verdict = .valid)
    (replaced : substitute owner none (owner.withoutTilde topic) = .endless key) :
    owner.expand topic = .endless key := by
  unfold Owner.expand
  simp only [accepted, replaced, ne_eq, not_true_eq_false, ↓reduceIte]

theorem Owner.expand_full {owner : Owner} {full : Bytes} (expanded : owner.expand topic = .expanded full) :
    IsFullTopic full := by
  unfold Owner.expand at expanded
  dsimp only at expanded
  split at expanded
  · cases expanded
  · split at expanded
    · cases expanded
    · cases expanded
    · split at expanded
      · cases expanded
      · rename_i valid
        cases expanded
        exact Decidable.not_not.1 valid

theorem Owner.expandTopic_full {owner : Owner} {full : Bytes}
    (expanded : owner.expandTopic topic = .ok full) : IsFullTopic full := by
  unfold Owner.expandTopic at expanded
  split at expanded
  · rename_i reached
    cases expanded
    exact Owner.expand_full reached
  · cases expanded
  · cases expanded

theorem Owner.resolve_full {owner : Owner} {rules : List Remap} {full : Bytes}
    (resolved : (owner.resolve rules topic).result = .ok full) : IsFullTopic full := by
  unfold Owner.resolve at resolved
  split at resolved
  · cases resolved
  · rename_i expanded
    dsimp only at resolved
    split at resolved
    · cases resolved
      exact Owner.expandTopic_full expanded
    · exact Owner.expandTopic_full resolved

variable {owner : Owner} {fault : Fault}

theorem Owner.status_of_expand (rejected : owner.expand topic = .rejected fault) :
    fault.status = .topicNameInvalid := by
  unfold Owner.expand at rejected
  dsimp only at rejected
  split at rejected
  · cases rejected
    rfl
  · split at rejected
    · cases rejected
    · cases rejected
      rfl
    · split at rejected
      · cases rejected
        rfl
      · cases rejected

theorem Owner.status_of_expandTopic (failed : owner.expandTopic topic = .error fault) :
    fault.status = .topicNameInvalid := by
  unfold Owner.expandTopic at failed
  split at failed
  · cases failed
  · rename_i rejected
    cases failed
    exact Owner.status_of_expand rejected
  · cases failed
    rfl

theorem Owner.status_of_resolve {rules : List Remap} (failed : (owner.resolve rules topic).result = .error fault) :
    fault.status = .topicNameInvalid := by
  unfold Owner.resolve at failed
  split at failed
  · rename_i rejected
    cases failed
    exact Owner.status_of_expandTopic rejected
  · dsimp only at failed
    split at failed
    · cases failed
    · exact Owner.status_of_expandTopic failed

end PubSub.Name
