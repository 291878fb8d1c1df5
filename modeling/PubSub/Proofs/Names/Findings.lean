import PubSub.Proofs.Names.Offences

/-!
What checks find.  A finding is an offence at the place that it points at, and no place before it breaks a rule of the
scan; a name is found too long only where nothing else is wrong with it.
-/

namespace PubSub.Name

def Kind.limit : Kind → Nat
  | .nodeName => nodeNameLimit
  | .nodeNamespace => namespaceLimit
  | .topic => topicLimit
  | .fullTopic => topicLimit

/-- The rules for the names of a kind, those of their scans among them, for a place as there. -/
def Kind.Offends (kind : Kind) (before after : Bytes) : Verdict → Prop
  | .emptyName => before = [] ∧ after = []
  | .notAbsolute => kind = .fullTopic ∧ before = [] ∧ ∃ first, after.head? = some first ∧ first ≠ slash
  | .endsWithSlash => after = [slash]
  | .startsWithDigit => (before = [] ∨ before.getLast? = some slash) ∧ ∃ digit ∈ digits, after.head? = some digit
  | .tooLong => before.length = kind.limit ∧ after ≠ []
  | rule => kind.Stumbles before after rule

structure Kind.Reports (kind : Kind) (name : Bytes) (finding : Finding) : Prop where
  valid : finding.verdict = .valid ↔
    ∀ before after, before ++ after = name → ∀ rule, ¬ kind.Offends before after rule
  offence : finding.verdict ≠ .valid → ∃ before after, before ++ after = name ∧ before.length = finding.index ∧
    kind.Offends before after finding.verdict
  /-- The length is looked at last. -/
  tooLong : finding.verdict = .tooLong →
    ∀ before after, before ++ after = name → ∀ rule, rule ≠ .tooLong → ¬ kind.Offends before after rule
  /-- The last byte is looked at before the scan, and all else after it or at the very front. -/
  first : finding.verdict ≠ .endsWithSlash → ∀ before after, before ++ after = name →
    before.length < finding.index → ∀ rule, ¬ kind.Stumbles before after rule

variable {kind : Kind} {before after name rest : Bytes} {verdict : Verdict} {finding : Finding}

theorem Kind.Stumbles.offends (broken : kind.Stumbles before after verdict) : kind.Offends before after verdict := by
  cases verdict with
  | startsWithDigit => exact ⟨.inr broken.1, broken.2⟩
  | valid | unallowedByte | repeatedSlash | misplacedTilde | unmatchedBrace => exact broken
  | emptyName | notAbsolute | endsWithSlash | tooLong => exact broken.elim

theorem Kind.Reports.of_offence (offends : kind.Offends before after verdict) (short : verdict ≠ .tooLong)
    (first : verdict ≠ .endsWithSlash → ∀ left right, left ++ right = before ++ after → left.length < before.length →
      ∀ rule, ¬ kind.Stumbles left right rule) :
    kind.Reports (before ++ after) ⟨verdict, before.length⟩ := by
  constructor
  · refine iff_of_false ?_ (fun fine => fine before after rfl verdict offends)
    rintro rfl
    exact offends
  · exact fun _ => ⟨before, after, rfl, rfl, offends⟩
  · exact fun long => absurd long short
  · exact first

theorem Kind.Reports.of_front (offends : kind.Offends [] name verdict) (short : verdict ≠ .tooLong) :
    kind.Reports name ⟨verdict, 0⟩ :=
  @Kind.Reports.of_offence kind [] name verdict offends short (fun _ _ _ _ early => absurd early (Nat.not_lt_zero _))

theorem Kind.Reports.of_ending (ending : name.getLast? = some slash) :
    kind.Reports name ⟨.endsWithSlash, name.length - 1⟩ := by
  obtain ⟨front, rfl⟩ := List.getLast?_eq_some_iff.1 ending
  rw [List.length_append, List.length_singleton, Nat.add_sub_cancel]
  exact @Kind.Reports.of_offence kind front [slash] .endsWithSlash rfl nofun (fun other => absurd rfl other)

/-- What stops a scan is reported. -/
theorem Kind.Scans.reports (scans : kind.Scans [] name (some finding)) : kind.Reports name finding := by
  obtain ⟨before, after, parts, place, broken⟩ := scans.exists_stumble
  obtain rfl : before ++ after = name := parts
  obtain ⟨verdict, index⟩ := finding
  obtain rfl : before.length = index := place
  refine .of_offence broken.offends ?_ ?_
  · rintro rfl
    exact broken
  · intro _ left right same early rule
    refine scans.not_stumbles same (Nat.zero_le _) ?_ rule
    rintro _ ⟨⟩
    exact early

def Kind.Fine (kind : Kind) (name : Bytes) : Prop :=
  ∀ before after, before ++ after = name → ∀ rule, rule ≠ .tooLong → ¬ kind.Offends before after rule

theorem Kind.Scans.fine (scans : kind.Scans [] name none) (nonempty : name ≠ [])
    (absolute : kind = .fullTopic → name.head? = some slash) (ending : name.getLast? ≠ some slash)
    (start : ∀ digit ∈ digits, name.head? ≠ some digit) : kind.Fine name := by
  rintro before after rfl rule short offends
  have passes : ∀ rule, ¬ kind.Stumbles before after rule := scans.not_stumbles rfl (Nat.zero_le _) nofun
  cases rule with
  | emptyName => exact nonempty (by simp [offends.1, offends.2])
  | notAbsolute =>
      obtain ⟨topic, rfl, first, head, other⟩ := offends
      exact other (Option.some.inj (head.symm.trans (absolute topic)))
  | endsWithSlash =>
      obtain rfl : after = [slash] := offends
      exact ending List.getLast?_concat
  | startsWithDigit =>
      obtain ⟨rfl | behind, digit, known, head⟩ := offends
      · exact start digit known head
      · exact passes .startsWithDigit ⟨behind, digit, known, head⟩
  | tooLong => exact short rfl
  | valid => exact passes .valid offends
  | unallowedByte => exact passes .unallowedByte offends
  | repeatedSlash => exact passes .repeatedSlash offends
  | misplacedTilde => exact passes .misplacedTilde offends
  | unmatchedBrace => exact passes .unmatchedBrace offends

theorem Kind.Fine.not_stumbles (fine : kind.Fine (before ++ after)) (rule : Verdict) :
    ¬ kind.Stumbles before after rule := by
  intro broken
  refine fine before after rfl rule ?_ broken.offends
  rintro rfl
  exact broken

theorem Kind.Fine.reports (fine : kind.Fine name) :
    kind.Reports name (if kind.limit < name.length then ⟨.tooLong, kind.limit⟩ else .clean) := by
  have first : ∀ before after, before ++ after = name → ∀ rule, ¬ kind.Stumbles before after rule := by
    rintro before after rfl
    exact fine.not_stumbles
  by_cases long : kind.limit < name.length
  · have parts : name.take kind.limit ++ name.drop kind.limit = name := List.take_append_drop kind.limit name
    have offends : kind.Offends (name.take kind.limit) (name.drop kind.limit) .tooLong := by
      refine ⟨List.length_take_of_le (Nat.le_of_lt long), ?_⟩
      rw [ne_eq, List.drop_eq_nil_iff]
      omega
    rw [if_pos long]
    constructor
    · exact iff_of_false nofun (fun clean => clean _ _ parts .tooLong offends)
    · exact fun _ => ⟨_, _, parts, offends.1, offends⟩
    · exact fun _ => fine
    · exact fun _ before after same _ => first before after same
  · rw [if_neg long]
    constructor
    · refine iff_of_true rfl ?_
      rintro before after rfl rule offends
      by_cases length : rule = .tooLong
      · subst length
        have more := List.length_pos_iff.2 offends.2
        rw [List.length_append, offends.1] at long
        omega
      · exact fine before after rfl rule length offends
    · exact fun broken => absurd rfl broken
    · nofun
    · exact fun _ before after same _ => first before after same

theorem reports_checkNodeName (name : Bytes) : Kind.nodeName.Reports name (checkNodeName name) := by
  cases name with
  | nil => exact @Kind.Reports.of_front .nodeName [] .emptyName ⟨rfl, rfl⟩ nofun
  | cons first rest =>
      have scans := @scans_findIdx? [] (first :: rest) unclosed_nil nofun
      unfold checkNodeName
      dsimp only
      split
      · rename_i index found
        rw [found] at scans
        simpa using scans.reports
      · rename_i clean
        rw [clean] at scans
        have tokens := findIdx?_eq_none_iff_token.1 clean
        split
        · rename_i digit
          exact .of_front ⟨.inl rfl, first, (isDigit_iff first).1 digit, rfl⟩ nofun
        · rename_i other
          refine (scans.fine (List.cons_ne_nil first rest) nofun ?_ ?_).reports
          · intro ending
            exact slash_notMem_tokenBytes (tokens slash (List.mem_of_getLast? ending))
          · rintro digit known ⟨⟩
            exact other ((isDigit_iff first).2 known)

theorem reports_checkFullTopic (name : Bytes) : Kind.fullTopic.Reports name (checkFullTopic name) := by
  cases name with
  | nil => exact @Kind.Reports.of_front .fullTopic [] .emptyName ⟨rfl, rfl⟩ nofun
  | cons first rest =>
      have scans := @scans_scanFullTopic [] (first :: rest) unclosed_nil apart_nil
      unfold checkFullTopic
      dsimp only
      by_cases absolute : first = slash
      · subst absolute
        rw [if_neg (not_not.2 rfl)]
        by_cases ending : (slash :: rest).getLast? = some slash
        · rw [if_pos ending]
          exact .of_ending ending
        rw [if_neg ending]
        split
        · rename_i finding found
          rw [List.length_nil, found] at scans
          exact scans.reports
        · rename_i clean
          rw [List.length_nil, clean] at scans
          refine (scans.fine (List.cons_ne_nil slash rest) (fun _ => rfl) ending ?_).reports
          rintro digit known ⟨⟩
          exact absurd known (by decide)
      · rw [if_pos absolute]
        exact .of_front ⟨rfl, rfl, first, rfl, absolute⟩ nofun

theorem reports_checkTopic (name : Bytes) : Kind.topic.Reports name (checkTopic name) := by
  cases name with
  | nil => exact @Kind.Reports.of_front .topic [] .emptyName ⟨rfl, rfl⟩ nofun
  | cons first rest =>
      have outside : false = true ↔ Unclosed [] := iff_of_false nofun unclosed_nil
      have scans := @scans_scanTopic [] (first :: rest) false outside apart_nil
      unfold checkTopic
      dsimp only
      by_cases ending : (first :: rest).getLast? = some slash
      · rw [if_pos ending]
        exact .of_ending ending
      rw [if_neg ending]
      split
      · rename_i finding found
        rw [List.length_nil, found] at scans
        exact scans.reports
      · rename_i clean
        rw [List.length_nil, clean] at scans
        by_cases digit : isDigit first = true
        · rw [if_pos digit]
          exact .of_front ⟨.inl rfl, first, (isDigit_iff first).1 digit, rfl⟩ nofun
        · rw [if_neg digit]
          refine (scans.fine (List.cons_ne_nil first rest) nofun ending ?_).reports
          rintro other known ⟨⟩
          exact digit ((isDigit_iff first).2 known)

theorem reports_check (chosen : kind ≠ .nodeNamespace) (name : Bytes) : kind.Reports name (check kind name) := by
  cases kind with
  | nodeName => exact reports_checkNodeName name
  | nodeNamespace => exact absurd rfl chosen
  | topic => exact reports_checkTopic name
  | fullTopic => exact reports_checkFullTopic name

end PubSub.Name

namespace PubSub.Middleware

open Name (Kind)

variable (middleware : Middleware) {name : Bytes}

theorem validate_eq (kind : Kind) (free : name.hasNul = false) :
    middleware.validate kind (some name) true = (.ok (Name.check kind name), middleware) := by
  unfold validate
  dsimp only
  rw [Bytes.beforeNul_of_hasNul_false free]

/--
A name of any kind but namespaces is rejected for an offence that it has where the finding points, which is the first
place that breaks a rule of the scan, and for its length only if nothing else is wrong with it.
-/
theorem points_at_offence {kind : Kind} (chosen : kind ≠ .nodeNamespace) (free : name.hasNul = false) :
    ∃ finding, middleware.validate kind (some name) true = (.ok finding, middleware) ∧ kind.Reports name finding :=
  ⟨Name.check kind name, middleware.validate_eq kind free, Name.reports_check chosen name⟩

/-- A tilde in the middle, before a slash that is doubled and a byte that no name may have. -/
theorem points_at_offence_tilde :
    Kind.topic ≠ .nodeNamespace ∧ (Bytes.ofString "a/\x7bb\x7d~//c-").hasNul = false ∧
      Kind.topic.Reports (Bytes.ofString "a/\x7bb\x7d~//c-") ⟨.misplacedTilde, 5⟩ := by
  have chosen : Kind.topic ≠ .nodeNamespace := nofun
  have free : (Bytes.ofString "a/\x7bb\x7d~//c-").hasNul = false := by decide
  obtain ⟨finding, answered, reports⟩ := points_at_offence .empty chosen free
  have found : finding = ⟨.misplacedTilde, 5⟩ := by
    rw [validate_eq .empty .topic free] at answered
    exact (Except.ok.inj (congrArg Prod.fst answered)).symm.trans (by decide)
  exact ⟨chosen, free, found ▸ reports⟩

end PubSub.Middleware
