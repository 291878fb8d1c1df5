import PubSub.Proofs.Names.Findings

/-!
Namespaces beside full topic names.  Both are paths, and a namespace other than the root is judged as a full topic name
first; so its own limit, which is the tighter one, is told only of names that a topic may still have.
-/

namespace PubSub.Name

variable {kind : Kind} {before after name : Bytes} {finding : Finding}

theorem Kind.Scans.ne_tooLong (scans : kind.Scans before after (some finding)) : finding.verdict ≠ .tooLong := by
  obtain ⟨left, right, _, _, broken⟩ := scans.exists_stumble
  intro long
  rw [long] at broken
  exact broken

theorem checkFullTopic_of_mem_path (member : name ∈ path) :
    checkFullTopic name = if topicLimit < name.length then ⟨.tooLong, topicLimit⟩ else .clean := by
  cases name with
  | nil => exact absurd member nil_notMem_path
  | cons first rest =>
      obtain ⟨absolute, clean, ending⟩ := cons_mem_path_iff.1 member
      unfold checkFullTopic
      dsimp only
      rw [if_neg (not_not.2 absolute), if_neg ending, clean]

theorem checkFullTopic_of_notMem_path (other : name ∉ path) :
    (checkFullTopic name).verdict ≠ .valid ∧ (checkFullTopic name).verdict ≠ .tooLong := by
  refine ⟨fun valid => other (checkFullTopic_valid_iff.1 valid).1, ?_⟩
  cases name with
  | nil => nofun
  | cons first rest =>
      have scans := @scans_scanFullTopic [] (first :: rest) unclosed_nil apart_nil
      unfold checkFullTopic
      dsimp only
      by_cases absolute : first = slash
      · rw [if_neg (not_not.2 absolute)]
        by_cases ending : (first :: rest).getLast? = some slash
        · rw [if_pos ending]
          nofun
        rw [if_neg ending]
        split
        · rename_i finding found
          rw [List.length_nil, found] at scans
          exact scans.ne_tooLong
        · rename_i clean
          exact absurd (cons_mem_path_iff.2 ⟨absolute, clean, ending⟩) other
      · rw [if_pos absolute]
        nofun

/-- The length of a namespace is measured by the limit of full topic names first. -/
theorem checkNamespace_of_mem_path (member : name ∈ path) (other : name ≠ root) :
    checkNamespace name =
      if topicLimit < name.length then ⟨.tooLong, topicLimit⟩
      else if namespaceLimit < name.length then ⟨.tooLong, namespaceLimit⟩
      else .clean := by
  unfold checkNamespace
  rw [if_neg other, checkFullTopic_of_mem_path member]
  split <;> rfl

theorem checkNamespace_of_notMem_path (strange : name ∉ path) (other : name ≠ root) :
    checkNamespace name = checkFullTopic name := by
  unfold checkNamespace
  rw [if_neg other]
  exact if_pos (checkFullTopic_of_notMem_path strange).1

/-- What is found in a namespace other than the root, by what is found in the same name as a full topic name. -/
structure JudgesAlike (name : Bytes) (ofSpace ofTopic : Finding) : Prop where
  /-- Where more than the length is wrong, both checks find the same. -/
  strange : name ∉ path → ofSpace = ofTopic ∧ ofTopic.verdict ≠ .valid ∧ ofTopic.verdict ≠ .tooLong
  short : name ∈ path → name.length ≤ 245 → ofSpace = .clean
  long : name ∈ path → 245 < name.length → name.length ≤ 255 → ofSpace = ⟨.tooLong, 245⟩
  /-- Past the limit of full topic names, that is the one which is reported. -/
  overlong : name ∈ path → 255 < name.length → ofSpace = ⟨.tooLong, 255⟩

end PubSub.Name

namespace PubSub.Middleware

open Name (JudgesAlike path root slash topicLimit namespaceLimit)

variable (middleware : Middleware) {name : Bytes}

/-- A namespace is judged as a full topic name by all rules but the length, and by its own limit up to the other. -/
theorem judges_namespaces_alike (free : name.hasNul = false) (other : name ≠ root) :
    ∃ ofSpace ofTopic, middleware.validate .nodeNamespace (some name) true = (.ok ofSpace, middleware) ∧
      middleware.validate .fullTopic (some name) true = (.ok ofTopic, middleware) ∧
      JudgesAlike name ofSpace ofTopic := by
  refine ⟨_, _, middleware.validate_eq .nodeNamespace free, middleware.validate_eq .fullTopic free, ?_⟩
  have limited := fun (member : name ∈ path) => Name.checkNamespace_of_mem_path member other
  constructor
  · intro strange
    exact ⟨Name.checkNamespace_of_notMem_path strange other, Name.checkFullTopic_of_notMem_path strange⟩
  · intro member short
    have whole : ¬ topicLimit < name.length := by
      unfold topicLimit
      omega
    exact (limited member).trans ((if_neg whole).trans (if_neg (Nat.not_lt.2 short)))
  · intro member long within
    exact (limited member).trans ((if_neg (Nat.not_lt.2 within)).trans (if_pos long))
  · intro member overlong
    exact (limited member).trans (if_pos overlong)

/-- A slash with so many letters after it. -/
def spelledOut (count : Nat) : Bytes :=
  slash :: List.replicate count 110

theorem spelledOut_mem_path (count : Nat) : spelledOut (count + 1) ∈ path := by
  have letters : List.replicate count 110 ∈ Name.continuation := by
    induction count with
    | zero => exact Name.nil_mem_continuation
    | succ count ih => exact Name.cons_mem_continuation.2 (.inr ⟨by decide +kernel, ih⟩)
  have starts : (110 : UInt8) ∈ Name.starters := by decide +kernel
  exact Name.cons_mem_path.2 ⟨rfl, Name.cons_mem_oneOf_mul.2 ⟨starts, letters⟩⟩

/-- The first length that a namespace may not have. -/
theorem judges_namespaces_alike_long :
    (spelledOut 245).hasNul = false ∧ spelledOut 245 ≠ root ∧
      ∃ ofTopic, Middleware.empty.validate .nodeNamespace (some (spelledOut 245)) true =
          (.ok ⟨.tooLong, 245⟩, .empty) ∧
        Middleware.empty.validate .fullTopic (some (spelledOut 245)) true = (.ok ofTopic, .empty) ∧
        JudgesAlike (spelledOut 245) ⟨.tooLong, 245⟩ ofTopic := by
  have free : (spelledOut 245).hasNul = false := by decide +kernel
  have other : spelledOut 245 ≠ root := nofun
  obtain ⟨ofSpace, ofTopic, answered, also, alike⟩ := judges_namespaces_alike .empty free other
  obtain rfl := alike.long (spelledOut_mem_path 244) (by decide +kernel) (by decide +kernel)
  exact ⟨free, other, ofTopic, answered, also, alike⟩

/-- The first length past the limit of full topic names: the finding points ten bytes behind the limit of namespaces. -/
theorem overlong_namespace_found_late :
    (spelledOut 255).hasNul = false ∧ spelledOut 255 ≠ root ∧ spelledOut 255 ∈ path ∧ 245 < (spelledOut 255).length ∧
      Middleware.empty.validate .nodeNamespace (some (spelledOut 255)) true = (.ok ⟨.tooLong, 255⟩, .empty) := by
  have free : (spelledOut 255).hasNul = false := by decide +kernel
  have other : spelledOut 255 ≠ root := nofun
  have member := spelledOut_mem_path 254
  have found := (Name.checkNamespace_of_mem_path member other).trans (if_pos (by decide +kernel))
  refine ⟨free, other, member, by decide +kernel, ?_⟩
  rw [validate_eq .empty .nodeNamespace free]
  exact congrArg (Prod.mk · Middleware.empty) (congrArg Except.ok found)

end PubSub.Middleware
