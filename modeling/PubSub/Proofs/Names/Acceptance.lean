import PubSub.Middleware.Context
import PubSub.Proofs.Names.FullTopics
import PubSub.Proofs.Names.Grammar

/-!
What the checks of names accept.  Each scan is followed byte by byte beside the grammar of its kind; together with
the rules that are looked at before and after the scan, a name passes its check exactly if the grammar has it.
-/

namespace PubSub.Name

variable {rest word name : Bytes} {byte first : UInt8} {index : Nat}

theorem findIdx?_eq_none_iff_token :
    name.findIdx? (fun byte => !isTokenByte byte) = none ↔ ∀ byte ∈ name, byte ∈ tokenBytes := by
  simp only [List.findIdx?_eq_none_iff, Bool.not_eq_false', isTokenByte_iff]

theorem checkNodeName_cons :
    (checkNodeName (first :: rest)).verdict = .valid ↔
      (first :: rest).findIdx? (fun byte => !isTokenByte byte) = none ∧ first ∉ digits ∧
        (first :: rest).length ≤ 255 := by
  unfold checkNodeName nodeNameLimit
  rw [← isDigit_iff]
  dsimp only
  split
  · rename_i found
    rw [found]
    exact iff_of_false nofun (fun rules => absurd rules.1 nofun)
  · rename_i clean
    rw [clean, and_iff_right rfl]
    split
    · rename_i digit
      exact iff_of_false nofun (fun rules => rules.1 digit)
    · rename_i other
      rw [and_iff_right other]
      split
      · rename_i long
        exact iff_of_false nofun (Nat.not_le.2 long)
      · rename_i short
        exact iff_of_true rfl (Nat.not_lt.1 short)

theorem checkNodeName_valid_iff : (checkNodeName name).verdict = .valid ↔ name ∈ atMost 255 token := by
  cases name with
  | nil => exact iff_of_false nofun (fun member => nil_notMem_token member.1)
  | cons first rest =>
      have grammar : first :: rest ∈ atMost 255 token ↔
          (first ∈ starters ∧ ∀ other ∈ rest, other ∈ tokenBytes) ∧ (first :: rest).length ≤ 255 :=
        and_congr_left' cons_mem_token
      rw [checkNodeName_cons, findIdx?_eq_none_iff_token, List.forall_mem_cons, grammar, mem_starters_iff]
      tauto

theorem checkAfterSlash_eq_none_iff :
    checkAfterSlash index rest = none ↔
      rest.head? ≠ some slash ∧ ∀ digit ∈ digits, rest.head? ≠ some digit := by
  cases rest with
  | nil => simp [checkAfterSlash]
  | cons next others =>
      unfold checkAfterSlash
      simp only [List.head?_cons, ne_eq, Option.some.injEq, List.forall_mem_ne]
      rw [← isDigit_iff]
      by_cases slashed : next = slash
      · simp [slashed]
      · by_cases digit : isDigit next = true
        · simp [slashed, digit]
        · simp [slashed, digit]

theorem scanFullTopic_slash :
    scanFullTopic index (slash :: rest) = none ↔
      checkAfterSlash (index + 1) rest = none ∧ scanFullTopic (index + 1) rest = none := by
  conv_lhs => unfold scanFullTopic
  rw [if_pos rfl]
  cases checkAfterSlash (index + 1) rest with
  | none => simp
  | some finding => simp

theorem scanFullTopic_other (other : byte ≠ slash) :
    scanFullTopic index (byte :: rest) = none ↔
      byte ∈ tokenBytes ∧ scanFullTopic (index + 1) rest = none := by
  conv_lhs => unfold scanFullTopic
  rw [if_neg other, ← isTokenByte_iff]
  by_cases token : isTokenByte byte = true
  · simp [token]
  · simp [token]

theorem getLast?_cons_ne_slash (other : byte ≠ slash) :
    (byte :: rest).getLast? ≠ some slash ↔ rest.getLast? ≠ some slash := by
  cases rest with
  | nil => simp [other]
  | cons next others => simp

theorem scanFullTopic_iff :
    scanFullTopic index word = none ∧ word.getLast? ≠ some slash ↔ word ∈ continuation := by
  induction word generalizing index with
  | nil => simp [scanFullTopic, nil_mem_continuation]
  | cons byte rest ih =>
      rw [cons_mem_continuation]
      by_cases slashed : byte = slash
      · subst slashed
        have other := slash_notMem_tokenBytes
        rw [scanFullTopic_slash, checkAfterSlash_eq_none_iff]
        cases rest with
        | nil => simp [other, nil_notMem_oneOf_mul]
        | cons next others =>
            -- a token begins where the slash was passed, so the byte after it is no digit
            have later := @ih (index + 1)
            rw [cons_mem_continuation] at later
            rw [cons_mem_oneOf_mul, mem_starters_iff, List.getLast?_cons_cons]
            simp only [List.head?_cons, ne_eq, Option.some.injEq, List.forall_mem_ne, other, true_and,
              false_and, or_false] at later ⊢
            rw [and_assoc, later]
            by_cases slashed : next = slash
            · simp [slashed, other]
            · simp only [slashed, not_false_eq_true, true_and, false_and, false_or]
              tauto
      · rw [scanFullTopic_other slashed, getLast?_cons_ne_slash slashed, ← @ih (index + 1)]
        tauto

theorem checkFullTopic_cons :
    (checkFullTopic (first :: rest)).verdict = .valid ↔
      first = slash ∧ (scanFullTopic 0 (first :: rest) = none ∧ (first :: rest).getLast? ≠ some slash) ∧
        (first :: rest).length ≤ 255 := by
  unfold checkFullTopic topicLimit
  dsimp only
  by_cases absolute : first = slash
  · subst absolute
    rw [if_neg (not_not.2 rfl)]
    by_cases ending : (slash :: rest).getLast? = some slash
    · simp [ending]
    · rw [if_neg ending]
      cases found : scanFullTopic 0 (slash :: rest) with
      | some finding => simp [scanFullTopic_ne_valid found]
      | none =>
          by_cases long : 255 < (slash :: rest).length
          · rw [if_pos long]
            simp only [reduceCtorEq, false_iff]
            omega
          · rw [if_neg long]
            simp only [Finding.clean, true_iff]
            exact ⟨trivial, ⟨trivial, ending⟩, Nat.not_lt.1 long⟩
  · simp [absolute]

theorem cons_mem_path_iff :
    first :: rest ∈ path ↔
      first = slash ∧ scanFullTopic 0 (first :: rest) = none ∧ (first :: rest).getLast? ≠ some slash := by
  rw [cons_mem_path, scanFullTopic_iff, cons_mem_continuation]
  refine and_congr_right (fun absolute => ?_)
  simp [absolute, slash_notMem_tokenBytes]

theorem checkFullTopic_valid_iff : (checkFullTopic name).verdict = .valid ↔ name ∈ atMost 255 path := by
  cases name with
  | nil => exact iff_of_false nofun (fun member => nil_notMem_path member.1)
  | cons first rest =>
      have grammar : first :: rest ∈ atMost 255 path ↔ first :: rest ∈ path ∧ (first :: rest).length ≤ 255 := Iff.rfl
      rw [checkFullTopic_cons, grammar, cons_mem_path_iff]
      simp only [and_assoc]

theorem checkNamespace_valid_iff :
    (checkNamespace name).verdict = .valid ↔ name ∈ ({root} + atMost 245 path : Language UInt8) := by
  have full := @checkFullTopic_valid_iff name
  have grammar : name ∈ ({root} + atMost 245 path : Language UInt8) ↔
      name = root ∨ name ∈ path ∧ name.length ≤ 245 := Iff.rfl
  have limited : name ∈ atMost 255 path ↔ name ∈ path ∧ name.length ≤ 255 := Iff.rfl
  rw [limited] at full
  rw [grammar]
  unfold checkNamespace namespaceLimit
  by_cases top : name = root
  · simp [top, Finding.clean]
  · by_cases valid : (checkFullTopic name).verdict = .valid
    · have member := full.1 valid
      by_cases long : 245 < name.length
      · simp [top, valid, long, member]
      · simp [top, valid, long, member]
        omega
    · have other : ¬ (name ∈ path ∧ name.length ≤ 245) :=
        fun both => valid (full.2 ⟨both.1, Nat.le_trans both.2 (by decide)⟩)
      simp [top, valid, other]

theorem scanTopic_ne_valid {inside : Bool} {finding : Finding}
    (found : scanTopic inside index word = some finding) : finding.verdict ≠ .valid := by
  induction word generalizing inside index with
  | nil =>
      unfold scanTopic at found
      grind
  | cons byte rest ih =>
      unfold scanTopic at found
      have after := @checkAfterSlash_ne_valid rest (index + 1) finding
      grind

theorem scanTopic_close :
    scanTopic true index (closeBrace :: rest) = none ↔ scanTopic false (index + 1) rest = none := by
  conv_lhs => unfold scanTopic
  rfl

theorem scanTopic_inside (other : byte ≠ closeBrace) :
    scanTopic true index (byte :: rest) = none ↔
      byte ∈ tokenBytes ∧ scanTopic true (index + 1) rest = none := by
  conv_lhs => unfold scanTopic
  rw [if_pos rfl, if_neg other, ← isTokenByte_iff]
  by_cases token : isTokenByte byte = true
  · simp [token]
  · simp [token]

theorem scanTopic_open :
    scanTopic false index (openBrace :: rest) = none ↔ scanTopic true (index + 1) rest = none := by
  conv_lhs => unfold scanTopic
  rfl

theorem scanTopic_tilde :
    scanTopic false index (tilde :: rest) = none ↔
      (index = 0 ∧ (rest = [] ∨ rest.head? = some slash)) ∧ scanTopic false (index + 1) rest = none := by
  conv_lhs => unfold scanTopic
  have apart : tilde ≠ openBrace ∧ tilde ≠ closeBrace := by decide
  rw [if_neg Bool.false_ne_true, if_neg apart.1, if_neg apart.2, if_pos rfl]
  by_cases placed : index = 0 ∧ (rest = [] ∨ rest.head? = some slash)
  · simp [placed]
  · simp [placed]

theorem scanTopic_slash :
    scanTopic false index (slash :: rest) = none ↔
      checkAfterSlash (index + 1) rest = none ∧ scanTopic false (index + 1) rest = none := by
  conv_lhs => unfold scanTopic
  have apart : slash ≠ openBrace ∧ slash ≠ closeBrace ∧ slash ≠ tilde := by decide
  rw [if_neg Bool.false_ne_true, if_neg apart.1, if_neg apart.2.1, if_neg apart.2.2, if_pos rfl]
  cases checkAfterSlash (index + 1) rest with
  | none => simp
  | some finding => simp

theorem scanTopic_outside (opened : byte ≠ openBrace) (tilded : byte ≠ tilde) (slashed : byte ≠ slash) :
    scanTopic false index (byte :: rest) = none ↔
      byte ∈ tokenBytes ∧ scanTopic false (index + 1) rest = none := by
  conv_lhs => unfold scanTopic
  rw [if_neg Bool.false_ne_true, if_neg opened, if_neg tilded, if_neg slashed, ← isTokenByte_iff]
  by_cases closed : byte = closeBrace
  · subst closed
    simp [show isTokenByte closeBrace = false from rfl]
  · by_cases token : isTokenByte byte = true
    · simp [closed, token]
    · simp [closed, token]

/--
Outside of braces the scan accepts a body, and inside of them what may follow an open brace, where all is spaced.
A tilde is the scan's own matter only at the very front.
-/
theorem scanTopic_iff :
    (scanTopic true index word = none ↔ word ∈ inBraces ∧ Spaced word) ∧
      ((index = 0 → word.head? ≠ some tilde) →
        (scanTopic false index word = none ↔ word ∈ body ∧ Spaced word)) := by
  induction word generalizing index with
  | nil =>
      simp [scanTopic, nil_notMem_inBraces, nil_mem_body, spaced_nil]
  | cons byte rest ih =>
      obtain ⟨inside, outside⟩ := @ih (index + 1)
      have outside := outside nofun
      constructor
      · rw [cons_mem_inBraces]
        by_cases closed : byte = closeBrace
        · subst closed
          rw [scanTopic_close, outside, spaced_cons_of_ne (by decide)]
          simp [closeBrace_notMem_tokenBytes]
        · rw [scanTopic_inside closed, inside]
          by_cases token : byte ∈ tokenBytes
          · have other : byte ≠ slash := fun same => slash_notMem_tokenBytes (same ▸ token)
            rw [spaced_cons_of_ne other]
            simp [closed, token]
          · simp [closed, token]
      · intro early
        rw [cons_mem_body]
        by_cases opened : byte = openBrace
        · subst opened
          rw [scanTopic_open, inside, spaced_cons_of_ne (by decide)]
          simp [openBrace_notMem_tokenBytes, show openBrace ≠ slash by decide]
        · by_cases slashed : byte = slash
          · subst slashed
            rw [scanTopic_slash, outside, spaced_slash_cons, checkAfterSlash_eq_none_iff]
            simp only [slash_notMem_tokenBytes, opened, true_and, false_and, or_false, false_or]
            tauto
          · rw [spaced_cons_of_ne slashed]
            by_cases tilded : byte = tilde
            · subst tilded
              rw [scanTopic_tilde]
              have late : index ≠ 0 := fun zero => early zero rfl
              simp [late, tilde_notMem_tokenBytes, slashed, opened]
            · rw [scanTopic_outside opened tilded slashed, outside]
              simp only [slashed, opened, false_and, or_false]
              tauto

theorem scanTopic_front :
    scanTopic false 0 word = none ↔
      word ∈ (1 + oneOf [tilde]) * body ∧
        (∀ rest, word = tilde :: rest → rest = [] ∨ rest.head? = some slash) ∧ Spaced word := by
  by_cases tilded : word.head? = some tilde
  · obtain ⟨rest, rfl⟩ := List.head?_eq_some_iff.1 tilded
    have after : (∀ others, tilde :: rest = tilde :: others → others = [] ∨ others.head? = some slash) ↔
        rest = [] ∨ rest.head? = some slash := by
      simp
    have later := (@scanTopic_iff rest (0 + 1)).2 (fun early => absurd early (Nat.succ_ne_zero 0))
    rw [scanTopic_tilde, later, tilde_cons_mem_spelled, after, spaced_cons_of_ne (by decide)]
    tauto
  · have after : ∀ rest, word = tilde :: rest → rest = [] ∨ rest.head? = some slash := by
      rintro rest rfl
      exact absurd rfl tilded
    rw [scanTopic_iff.2 (fun _ => tilded), mem_spelled_of_head tilded]
    tauto

theorem checkTopic_cons :
    (checkTopic (first :: rest)).verdict = .valid ↔
      (first :: rest).getLast? ≠ some slash ∧ scanTopic false 0 (first :: rest) = none ∧
        first ∉ digits ∧ (first :: rest).length ≤ 255 := by
  unfold checkTopic topicLimit
  dsimp only
  rw [← isDigit_iff]
  by_cases ending : (first :: rest).getLast? = some slash
  · simp [ending]
  · rw [if_neg ending]
    cases found : scanTopic false 0 (first :: rest) with
    | some finding => simp [scanTopic_ne_valid found]
    | none =>
        by_cases digit : isDigit first = true
        · simp [digit]
        · by_cases long : 255 < (first :: rest).length
          · rw [if_neg digit, if_pos long]
            simp only [reduceCtorEq, false_iff]
            omega
          · rw [if_neg digit, if_neg long]
            simp only [Finding.clean, true_iff]
            exact ⟨ending, trivial, digit, Nat.not_lt.1 long⟩

theorem checkTopic_valid_iff : (checkTopic name).verdict = .valid ↔ IsTopic name := by
  cases name with
  | nil => exact iff_of_false nofun (fun topic => absurd topic.length.1 (by decide))
  | cons first rest =>
      rw [checkTopic_cons, scanTopic_front]
      have start : (∀ digit ∈ digits, (first :: rest).head? ≠ some digit) ↔ first ∉ digits := by
        simp only [List.head?_cons, ne_eq, Option.some.injEq, List.forall_mem_ne]
      constructor
      · rintro ⟨ending, ⟨spelled, afterTilde, spaced⟩, other, length⟩
        exact ⟨spelled, afterTilde, spaced, start.2 other, ending, Nat.succ_pos _, length⟩
      · rintro ⟨spelled, afterTilde, spaced, other, ending, _, length⟩
        exact ⟨ending, ⟨spelled, afterTilde, spaced⟩, start.1 other, length⟩

/-- A check accepts the names of its kind, and no others. -/
theorem check_valid_iff (kind : Kind) (name : Bytes) :
    (check kind name).verdict = .valid ↔ name ∈ kind.grammar := by
  cases kind with
  | nodeName => exact checkNodeName_valid_iff
  | nodeNamespace => exact checkNamespace_valid_iff
  | topic => exact checkTopic_valid_iff
  | fullTopic => exact checkFullTopic_valid_iff

end PubSub.Name

namespace PubSub.Middleware

open Name (Kind)

/--
A name that is given to a check is always judged, nothing else changes, and it is found valid exactly if the
grammar of its kind has it.
-/
theorem accepts_grammar (middleware : Middleware) (kind : Kind) {name : Bytes} (free : name.hasNul = false) :
    ∃ finding, middleware.validate kind (some name) true = (.ok finding, middleware) ∧
      (finding.verdict = .valid ↔ name ∈ kind.grammar) := by
  refine ⟨Name.check kind name, ?_, Name.check_valid_iff kind name⟩
  unfold validate
  dsimp only
  rw [Bytes.beforeNul_of_hasNul_false free]

/-- A topic with a tilde, a key in braces that begins with a digit, and a digit right after them. -/
theorem accepts_grammar_braces :
    (Bytes.ofString "~/\x7b1ns\x7d2/_a").hasNul = false ∧
      Bytes.ofString "~/\x7b1ns\x7d2/_a" ∈ Kind.topic.grammar := by
  have free : (Bytes.ofString "~/\x7b1ns\x7d2/_a").hasNul = false := by decide
  obtain ⟨finding, answered, valid⟩ := accepts_grammar .empty .topic free
  have found : finding = Name.check .topic (Bytes.ofString "~/\x7b1ns\x7d2/_a").beforeNul :=
    (Except.ok.inj (congrArg Prod.fst answered)).symm
  refine ⟨free, valid.1 ?_⟩
  rw [found]
  decide

end PubSub.Middleware
