import PubSub.Proofs.Names.Acceptance

/-!
Where scans stop.  A rule of a scan is about one place of a name, with what stands before it and what comes after; a
scan passes the places from the left and stops at the first one where a rule is broken.
-/

namespace PubSub.Name

def Unclosed (before : Bytes) : Prop :=
  ∃ front key, before = front ++ openBrace :: key ∧ closeBrace ∉ key

/-- The bytes that may stand in a name of a kind.  In the braces of a topic there are fewer. -/
def Kind.Permits (kind : Kind) (before : Bytes) (byte : UInt8) : Prop :=
  match kind with
  | .nodeName => byte ∈ tokenBytes
  | .nodeNamespace | .fullTopic => byte ∈ tokenBytes ∨ byte = slash
  | .topic =>
      byte ∈ tokenBytes ∨ byte = closeBrace ∨ ¬ Unclosed before ∧ byte ∈ [slash, tilde, openBrace]

def Kind.Stumbles (kind : Kind) (before after : Bytes) : Verdict → Prop
  | .unallowedByte => ∃ byte, after.head? = some byte ∧ ¬ kind.Permits before byte
  | .repeatedSlash => before.getLast? = some slash ∧ after.head? = some slash
  | .startsWithDigit => before.getLast? = some slash ∧ ∃ digit ∈ digits, after.head? = some digit
  | .misplacedTilde =>
      ∃ rest, after = tilde :: rest ∧ (before ≠ [] ∨ ∃ next, rest.head? = some next ∧ next ≠ slash)
  | .unmatchedBrace => after.head? = some closeBrace ∧ ¬ Unclosed before ∨ after = [] ∧ Unclosed before
  | _ => False

inductive Kind.Scans (kind : Kind) : Bytes → Bytes → Option Finding → Prop where
  | ended {before : Bytes} (fine : ∀ rule, ¬ kind.Stumbles before [] rule) : Scans kind before [] none
  | stumbled {before after : Bytes} {verdict : Verdict} (broken : kind.Stumbles before after verdict) :
      Scans kind before after (some ⟨verdict, before.length⟩)
  | passed {before rest : Bytes} {byte : UInt8} {outcome : Option Finding}
      (fine : ∀ rule, ¬ kind.Stumbles before (byte :: rest) rule) (later : Scans kind (before ++ [byte]) rest outcome) :
      Scans kind before (byte :: rest) outcome

variable {kind : Kind} {before after left right rest word : Bytes} {byte : UInt8} {outcome : Option Finding}
  {finding : Finding} {inside : Bool}

theorem Kind.Scans.exists_stumble (scans : kind.Scans before after (some finding)) :
    ∃ left right, left ++ right = before ++ after ∧ left.length = finding.index ∧
      kind.Stumbles left right finding.verdict := by
  generalize found : some finding = outcome at scans
  induction scans with
  | ended fine => cases found
  | @stumbled before after verdict broken =>
      cases found
      exact ⟨before, after, rfl, rfl, broken⟩
  | passed fine later ih =>
      obtain ⟨left, right, parts, place, broken⟩ := ih found
      exact ⟨left, right, by simpa using parts, place, broken⟩

/-- Nothing is broken at the places that a scan passes. -/
theorem Kind.Scans.not_stumbles (scans : kind.Scans before after outcome) (parts : left ++ right = before ++ after)
    (reached : before.length ≤ left.length) (early : ∀ finding, outcome = some finding → left.length < finding.index)
    (rule : Verdict) : ¬ kind.Stumbles left right rule := by
  induction scans with
  | @ended before fine =>
      have whole := congrArg List.length parts
      simp only [List.length_append, List.length_nil] at whole
      obtain ⟨rfl, rfl⟩ := List.append_inj parts (by omega)
      exact fine rule
  | @stumbled before after verdict broken =>
      exact absurd (early ⟨verdict, before.length⟩ rfl) (Nat.not_lt.2 reached)
  | @passed before rest byte outcome fine later ih =>
      by_cases here : left.length = before.length
      · obtain ⟨rfl, rfl⟩ := List.append_inj parts here
        exact fine rule
      · refine ih (by simpa using parts) ?_ early
        rw [List.length_append, List.length_singleton]
        omega

theorem unclosed_nil : ¬ Unclosed [] := by
  rintro ⟨front, key, parts, _⟩
  simp at parts

theorem unclosed_concat : Unclosed (before ++ [byte]) ↔ byte = openBrace ∨ byte ≠ closeBrace ∧ Unclosed before := by
  constructor
  · rintro ⟨front, key, parts, free⟩
    rcases List.eq_nil_or_concat key with rfl | ⟨others, last, rfl⟩
    · obtain ⟨_, same⟩ := List.append_inj' parts rfl
      exact .inl (List.cons.inj same).1
    · have split : before ++ [byte] = (front ++ openBrace :: others) ++ [last] := by simpa using parts
      obtain ⟨rfl, same⟩ := List.append_inj' split rfl
      obtain rfl := (List.cons.inj same).1
      rw [List.concat_eq_append, List.mem_append, List.mem_singleton, not_or] at free
      exact .inr ⟨Ne.symm free.2, front, others, rfl, free.1⟩
  · rintro (rfl | ⟨other, front, key, rfl, free⟩)
    · exact ⟨before, [], rfl, List.not_mem_nil⟩
    · refine ⟨front, key ++ [byte], by simp, ?_⟩
      rw [List.mem_append, List.mem_singleton, not_or]
      exact ⟨free, Ne.symm other⟩

def Apart (before after : Bytes) : Prop :=
  before.getLast? = some slash → after.head? ≠ some slash ∧ ∀ digit ∈ digits, after.head? ≠ some digit

theorem apart_nil : Apart [] after :=
  nofun

theorem apart_concat (other : byte ≠ slash) : Apart (before ++ [byte]) after := by
  intro slashed
  rw [List.getLast?_concat, Option.some.injEq] at slashed
  exact absurd slashed other

theorem not_stumbles_nil (closed : ¬ Unclosed before) (rule : Verdict) : ¬ kind.Stumbles before [] rule := by
  cases rule <;> simp [Kind.Stumbles, closed]

theorem not_stumbles_cons (permitted : kind.Permits before byte) (apart : Apart before (byte :: rest))
    (leads : byte = tilde → before = [] ∧ (rest = [] ∨ rest.head? = some slash))
    (closes : byte = closeBrace → Unclosed before) (rule : Verdict) :
    ¬ kind.Stumbles before (byte :: rest) rule := by
  cases rule with
  | unallowedByte =>
      rintro ⟨_, ⟨⟩, other⟩
      exact other permitted
  | repeatedSlash =>
      rintro ⟨behind, slashed⟩
      exact (apart behind).1 slashed
  | startsWithDigit =>
      rintro ⟨behind, digit, known, first⟩
      exact (apart behind).2 digit known first
  | misplacedTilde =>
      rintro ⟨_, ⟨⟩, inner | ⟨next, head, other⟩⟩
      · exact inner (leads rfl).1
      · rcases (leads rfl).2 with rfl | slashed
        · cases head
        · exact other (Option.some.inj (head.symm.trans slashed))
  | unmatchedBrace =>
      rintro (⟨closed, alone⟩ | ⟨⟨⟩, _⟩)
      exact alone (closes (Option.some.inj closed))
  | _ => exact id

theorem scans_findIdx? (closed : ¬ Unclosed before) (apart : before.getLast? ≠ some slash) :
    Kind.nodeName.Scans before word
      ((word.findIdx? (fun byte => !isTokenByte byte)).map (fun index => ⟨.unallowedByte, before.length + index⟩)) := by
  induction word generalizing before with
  | nil => exact .ended (not_stumbles_nil closed)
  | cons byte rest ih =>
      rw [List.findIdx?_cons]
      by_cases token : byte ∈ tokenBytes
      · obtain ⟨other, opened, closes⟩ := ne_of_plain (.inl token)
        have away : byte ≠ slash := fun same => slash_notMem_tokenBytes (same ▸ token)
        have fine := @not_stumbles_cons .nodeName before rest byte token (fun behind => absurd behind apart)
          (fun same => absurd same other) (fun same => absurd same closes)
        have later := @ih (before ++ [byte]) (by simp [unclosed_concat, opened, closed]) (by simpa using away)
        rw [(isTokenByte_iff byte).2 token]
        refine .passed fine ?_
        simpa [Option.map_map, Function.comp_def, Nat.add_assoc, Nat.add_comm 1] using later
      · have unknown : isTokenByte byte = false :=
          Bool.eq_false_iff.2 (fun known => token ((isTokenByte_iff byte).1 known))
        rw [unknown]
        exact .stumbled ⟨byte, rfl, token⟩

theorem scans_afterSlash (behind : before.getLast? = some slash)
    (found : checkAfterSlash before.length after = some finding) : kind.Scans before after (some finding) := by
  cases after with
  | nil => cases found
  | cons next rest =>
      unfold checkAfterSlash at found
      dsimp only at found
      split at found
      · rename_i slashed
        cases found
        exact .stumbled ⟨behind, congrArg some slashed⟩
      · split at found
        · rename_i digit
          cases found
          exact .stumbled ⟨behind, next, (isDigit_iff next).1 digit, rfl⟩
        · cases found

theorem scans_slash (fine : ∀ rule, ¬ kind.Stumbles before (slash :: rest) rule)
    (later : Apart (before ++ [slash]) rest → kind.Scans (before ++ [slash]) rest outcome) :
    kind.Scans before (slash :: rest)
      (match checkAfterSlash (before ++ [slash]).length rest with
      | some finding => some finding
      | none => outcome) := by
  refine .passed fine ?_
  split
  · rename_i found
    exact scans_afterSlash List.getLast?_concat found
  · rename_i clean
    exact later (fun _ => checkAfterSlash_eq_none_iff.1 clean)

theorem scans_scanFullTopic (closed : ¬ Unclosed before) (apart : Apart before word) :
    Kind.fullTopic.Scans before word (scanFullTopic before.length word) := by
  induction word generalizing before with
  | nil => exact .ended (not_stumbles_nil closed)
  | cons byte rest ih =>
      have place : (before ++ [byte]).length = before.length + 1 := List.length_append
      unfold scanFullTopic
      rw [← place]
      by_cases plain : byte ∈ tokenBytes ∨ byte = slash
      · obtain ⟨other, opened, closes⟩ := ne_of_plain plain
        have fine := @not_stumbles_cons .fullTopic before rest byte plain apart
          (fun same => absurd same other) (fun same => absurd same closes)
        have next : ¬ Unclosed (before ++ [byte]) := by simp [unclosed_concat, opened, closed]
        by_cases slashed : byte = slash
        · subst slashed
          rw [if_pos rfl]
          exact scans_slash fine (ih next)
        · have known := (isTokenByte_iff byte).2 (plain.resolve_right slashed)
          rw [if_neg slashed, if_pos known]
          exact .passed fine (ih next (apart_concat slashed))
      · rw [not_or] at plain
        have unknown : ¬ isTokenByte byte = true := fun known => plain.1 ((isTokenByte_iff byte).1 known)
        rw [if_neg plain.2, if_neg unknown]
        exact .stumbled ⟨byte, rfl, not_or.2 plain⟩

/-- The scan of a topic goes on as it should from a place, in braces or not. -/
def GoesOn (before rest : Bytes) : Prop :=
  ∀ inside, (inside = true ↔ Unclosed before) → Apart before rest →
    Kind.topic.Scans before rest (scanTopic inside before.length rest)

theorem scans_inside (opened : Unclosed before) (apart : Apart before (byte :: rest))
    (goesOn : GoesOn (before ++ [byte]) rest) :
    Kind.topic.Scans before (byte :: rest) (scanTopic true before.length (byte :: rest)) := by
  have place : (before ++ [byte]).length = before.length + 1 := List.length_append
  unfold scanTopic
  rw [if_pos rfl, ← place]
  by_cases closes : byte = closeBrace
  · subst closes
    have fine := @not_stumbles_cons .topic before rest closeBrace (.inr (.inl rfl)) apart
      (fun same => absurd same (by decide)) (fun _ => opened)
    have outside : ¬ Unclosed (before ++ [closeBrace]) := by
      simp [unclosed_concat, show closeBrace ≠ openBrace by decide]
    exact .passed fine (goesOn false (by simp [outside]) (apart_concat (by decide)))
  rw [if_neg closes]
  by_cases known : isTokenByte byte = true
  · have token := (isTokenByte_iff byte).1 known
    have away : byte ≠ slash := fun same => slash_notMem_tokenBytes (same ▸ token)
    have fine := @not_stumbles_cons .topic before rest byte (.inl token) apart
      (fun same => absurd same (ne_of_plain (.inl token)).1) (fun _ => opened)
    have inside : Unclosed (before ++ [byte]) := unclosed_concat.2 (.inr ⟨closes, opened⟩)
    rw [if_pos known]
    exact .passed fine (goesOn true (by simp [inside]) (apart_concat away))
  · rw [if_neg known]
    refine .stumbled ⟨byte, rfl, ?_⟩
    rintro (token | same | ⟨closed, _⟩)
    · exact known ((isTokenByte_iff byte).2 token)
    · exact closes same
    · exact closed opened

theorem stumbles_tilde (misplaced : ¬ (before.length = 0 ∧ (rest = [] ∨ rest.head? = some slash))) :
    kind.Stumbles before (tilde :: rest) .misplacedTilde := by
  refine ⟨rest, rfl, ?_⟩
  by_cases front : before = []
  · subst front
    cases rest with
    | nil => exact absurd ⟨rfl, .inl rfl⟩ misplaced
    | cons next others => exact .inr ⟨next, rfl, fun same => misplaced ⟨rfl, .inr (congrArg some same)⟩⟩
  · exact .inl front

theorem scans_outside (closed : ¬ Unclosed before) (apart : Apart before (byte :: rest))
    (goesOn : GoesOn (before ++ [byte]) rest) :
    Kind.topic.Scans before (byte :: rest) (scanTopic false before.length (byte :: rest)) := by
  have place : (before ++ [byte]).length = before.length + 1 := List.length_append
  have special : byte ∈ [slash, tilde, openBrace] → Kind.topic.Permits before byte :=
    fun one => .inr (.inr ⟨closed, one⟩)
  unfold scanTopic
  rw [if_neg Bool.false_ne_true, ← place]
  by_cases opens : byte = openBrace
  · subst opens
    rw [if_pos rfl]
    have fine := @not_stumbles_cons .topic before rest openBrace (special (by simp)) apart
      (fun same => absurd same (by decide)) (fun same => absurd same (by decide))
    exact .passed fine (goesOn true (by simp [unclosed_concat]) (apart_concat (by decide)))
  have outside : false = true ↔ Unclosed (before ++ [byte]) := by simp [unclosed_concat, opens, closed]
  rw [if_neg opens]
  by_cases closes : byte = closeBrace
  · rw [if_pos closes]
    exact .stumbled (.inl ⟨congrArg some closes, closed⟩)
  rw [if_neg closes]
  by_cases tilded : byte = tilde
  · subst tilded
    rw [if_pos rfl]
    by_cases leads : before.length = 0 ∧ (rest = [] ∨ rest.head? = some slash)
    · rw [if_pos leads]
      have fine := @not_stumbles_cons .topic before rest tilde (special (by simp)) apart
        (fun _ => ⟨List.eq_nil_of_length_eq_zero leads.1, leads.2⟩) (fun same => absurd same (by decide))
      exact .passed fine (goesOn false outside (apart_concat (by decide)))
    · rw [if_neg leads]
      exact .stumbled (stumbles_tilde leads)
  rw [if_neg tilded]
  by_cases slashed : byte = slash
  · subst slashed
    rw [if_pos rfl]
    have fine := @not_stumbles_cons .topic before rest slash (special (by simp)) apart
      (fun same => absurd same (by decide)) (fun same => absurd same (by decide))
    exact scans_slash fine (goesOn false outside)
  rw [if_neg slashed]
  by_cases known : isTokenByte byte = true
  · have token := (isTokenByte_iff byte).1 known
    have fine := @not_stumbles_cons .topic before rest byte (.inl token) apart
      (fun same => absurd same tilded) (fun same => absurd same closes)
    rw [if_pos known]
    exact .passed fine (goesOn false outside (apart_concat slashed))
  · rw [if_neg known]
    refine .stumbled ⟨byte, rfl, ?_⟩
    rintro (token | same | ⟨_, one⟩)
    · exact known ((isTokenByte_iff byte).2 token)
    · exact closes same
    · simp [slashed, tilded, opens] at one

theorem scans_scanTopic (state : inside = true ↔ Unclosed before) (apart : Apart before word) :
    Kind.topic.Scans before word (scanTopic inside before.length word) := by
  induction word generalizing before inside with
  | nil =>
      unfold scanTopic
      cases inside with
      | true => exact .stumbled (.inr ⟨rfl, state.1 rfl⟩)
      | false => exact .ended (not_stumbles_nil (fun opened => absurd (state.2 opened) Bool.false_ne_true))
  | cons byte rest ih =>
      have goesOn : GoesOn (before ++ [byte]) rest := fun inside => ih
      cases inside with
      | true => exact scans_inside (state.1 rfl) apart goesOn
      | false => exact scans_outside (fun opened => absurd (state.2 opened) Bool.false_ne_true) apart goesOn

end PubSub.Name
