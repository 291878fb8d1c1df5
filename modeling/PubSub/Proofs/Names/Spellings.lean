import PubSub.Proofs.Names.Completion
import PubSub.Proofs.Names.Remapping

/-!
Spellings of one topic.  What is below the namespace may be written relative to it or after the key of the namespace,
and what is below the node after a tilde or after the keys of both.  The check accepts all spellings or none, and they
expand alike.
-/

namespace PubSub.Name

variable {owner : Owner} {front rest name topic full : Bytes} {index : Nat}

/-- What may come before a slash, as far as the check of topics is concerned, whatever comes after it. -/
structure Leads (front : Bytes) : Prop where
  scanned : ∀ rest, scanTopic false 0 (front ++ slash :: rest) = none ↔
    scanTopic false front.length (slash :: rest) = none
  start : ∃ first others, front = first :: others ∧ first ∉ digits

theorem leads_tilde : Leads [tilde] where
  scanned := by
    intro rest
    rw [List.singleton_append, scanTopic_tilde]
    exact and_iff_right ⟨rfl, .inr rfl⟩
  start := ⟨tilde, [], rfl, by decide⟩

theorem scanTopic_key (plain : (Piece.key name).Plain) :
    scanTopic true index (name ++ closeBrace :: rest) = none ↔
      scanTopic false (index + name.length + 1) rest = none := by
  induction name generalizing index with
  | nil => exact scanTopic_close
  | cons byte more ih =>
      obtain ⟨token, later⟩ := List.forall_mem_cons.1 plain
      rw [List.cons_append, scanTopic_inside (ne_of_plain (.inl token)).2.2, ih later, and_iff_right token,
        List.length_cons, Nat.add_right_comm index 1, Nat.add_assoc index]

theorem leads_key (plain : (Piece.key name).Plain) : Leads (Piece.key name).text where
  scanned := by
    intro rest
    have width : (Piece.key name).text.length = 0 + 1 + name.length + 1 := by
      simp only [Piece.text, List.cons_append, List.length_cons, List.length_append, List.length_nil]
      omega
    rw [Piece.text_key_append, scanTopic_open, scanTopic_key plain, width]
  start := ⟨openBrace, name ++ [closeBrace], rfl, by decide⟩

/-- Behind a slash, and not at the front, the scan passes what it passes at the front, but for a digit. -/
theorem scanTopic_behind (slashed : rest.head? ≠ some slash) (tilded : rest.head? ≠ some tilde) :
    scanTopic false index (slash :: rest) = none ↔
      (∀ digit ∈ digits, rest.head? ≠ some digit) ∧ scanTopic false 0 rest = none := by
  have behind := (@scanTopic_iff rest (index + 1)).2 (fun early => absurd early (Nat.succ_ne_zero index))
  rw [scanTopic_slash, checkAfterSlash_eq_none_iff, and_iff_right slashed, behind, scanTopic_iff.2 (fun _ => tilded)]

theorem Leads.checkTopic_iff (leads : Leads front) (nonempty : rest ≠ []) (slashed : rest.head? ≠ some slash)
    (tilded : rest.head? ≠ some tilde) (short : (front ++ slash :: rest).length ≤ 255) :
    (checkTopic (front ++ slash :: rest)).verdict = .valid ↔ (checkTopic rest).verdict = .valid := by
  obtain ⟨first, others, rfl⟩ := List.exists_cons_of_ne_nil nonempty
  have scanned := leads.scanned (first :: others)
  rw [scanTopic_behind slashed tilded] at scanned
  obtain ⟨head, tail, rfl, start⟩ := leads.start
  have shorter : (first :: others).length ≤ 255 := by
    simp only [List.length_append, List.length_cons] at short ⊢
    omega
  have ending : (head :: tail ++ slash :: first :: others).getLast? = (first :: others).getLast? := by
    rw [List.getLast?_append, List.getLast?_cons_cons, List.getLast?_cons, Option.some_or]
  rw [List.cons_append, checkTopic_cons, checkTopic_cons, ← List.cons_append, ending, scanned, and_iff_right start]
  simp only [List.head?_cons, ne_eq, Option.some.injEq, List.forall_mem_ne]
  tauto

def Substitution.text? : Substitution → Option Bytes
  | .finished text => some text
  | _ => none

/-- Without the checks, what a topic becomes. -/
def Owner.replaced? (owner : Owner) (topic : Bytes) : Option Bytes :=
  (substitute owner none (owner.withoutTilde topic)).text?.map owner.absolute

theorem Substitution.text?_after (outcome : Substitution) (front : Bytes) :
    (outcome.after front).text? = outcome.text?.map (front ++ ·) := by
  cases outcome <;> rfl

theorem Owner.expansion?_eq (owner : Owner) (topic : Bytes) :
    owner.expansion? topic =
      if (checkTopic topic).verdict = .valid then (owner.replaced? topic).filter (fun full => IsFullTopic full)
      else none := by
  unfold expansion? replaced?
  by_cases accepted : (checkTopic topic).verdict = .valid
  · rw [if_pos accepted]
    cases replaced : substitute owner none (owner.withoutTilde topic) with
    | finished text =>
        rw [expand_of_finished accepted replaced]
        by_cases valid : IsFullTopic (owner.absolute text)
        · rw [if_pos (show (checkFullTopic _).verdict = _ from valid)]
          simp [Substitution.text?, Option.filter_some, valid]
        · rw [if_neg (show ¬ (checkFullTopic _).verdict = _ from valid)]
          simp [Substitution.text?, Option.filter_some, valid]
    | unknown key =>
        rw [expand_of_unknown accepted replaced]
        rfl
    | endless key =>
        rw [expand_of_endless accepted replaced]
        rfl
  · rw [if_neg accepted, expand_of_refused accepted]

theorem Owner.expansion?_congr {first second : Bytes}
    (accepted : (checkTopic first).verdict = .valid ↔ (checkTopic second).verdict = .valid)
    (replaced : owner.replaced? first = owner.replaced? second) : owner.expansion? first = owner.expansion? second := by
  rw [expansion?_eq, expansion?_eq, replaced]
  exact if_congr accepted rfl rfl

structure Relative (topic : Bytes) : Prop where
  nonempty : topic ≠ []
  start : ∀ byte ∈ [slash, tilde, openBrace], topic.head? ≠ some byte

def spaceKeys : List Bytes :=
  [Bytes.ofString "ns", Bytes.ofString "namespace"]

def nodeKey : Bytes :=
  (Piece.key (Bytes.ofString "node")).text

theorem plain_of_mem_keys (known : name ∈ keys) : (Piece.key name).Plain := by
  have all : ∀ name ∈ keys, ∀ byte ∈ name, byte ∈ tokenBytes := by decide +kernel
  exact all name known

theorem mem_keys_of_mem_spaceKeys (member : name ∈ spaceKeys) : name ∈ keys :=
  List.mem_cons_of_mem _ member

theorem head?_key (name rest : Bytes) : ((Piece.key name).text ++ rest).head? = some openBrace := rfl

theorem substitute_space (member : name ∈ spaceKeys) :
    substitute owner none ((Piece.key name).text ++ slash :: rest) = (substitute owner none rest).after owner.base := by
  have known := mem_keys_of_mem_spaceKeys member
  have other : name ≠ Bytes.ofString "node" := by
    rintro rfl
    exact absurd member (by decide)
  rw [Piece.text_key_append, substitute_closed (plain_of_mem_keys known).closeBrace_notMem, Owner.value?_of_mem known,
    if_neg other, substitute_literal (by decide)]
  unfold Owner.base
  by_cases top : owner.space = root
  · simp [top, root]
  · simp [top]

theorem substitute_node (owner : Owner) (rest : Bytes) :
    substitute owner none (nodeKey ++ slash :: rest) = (substitute owner none rest).after (owner.name ++ [slash]) := by
  have known : Bytes.ofString "node" ∈ keys := List.mem_cons_self
  rw [nodeKey, Piece.text_key_append, substitute_closed (plain_of_mem_keys known).closeBrace_notMem,
    Owner.value?_of_mem known, if_pos rfl, substitute_literal (by decide)]
  exact Substitution.after_after _ _ _

theorem Owner.Settled.head?_base (settled : owner.Settled) : owner.base.head? = some slash := by
  unfold base
  split
  · rfl
  · rename_i deep
    have full := settled.space_full.resolve_left deep
    rw [List.head?_append, full.bytes.1, Option.some_or]

theorem Owner.replaced?_of_after {outcome : Substitution} (led : front.head? = some slash)
    (replaced : substitute owner none (owner.withoutTilde topic) = outcome.after front) :
    owner.replaced? topic = outcome.text?.map (front ++ ·) := by
  have absolute : owner.absolute ∘ (front ++ ·) = (front ++ ·) := by
    funext text
    exact if_pos (by rw [List.head?_append, led, Option.some_or])
  rw [replaced?, replaced, Substitution.text?_after, Option.map_map, absolute]

theorem Owner.replaced?_relative (relative : Relative rest) :
    owner.replaced? rest = (substitute owner none rest).text?.map (owner.base ++ ·) := by
  unfold replaced?
  rw [withoutTilde_of_ne (relative.start tilde (by decide))]
  obtain ⟨first, more, rfl⟩ := List.exists_cons_of_ne_nil relative.nonempty
  have slashed := relative.start slash (by decide)
  have opened : first ≠ openBrace := fun same => relative.start openBrace (by decide) (congrArg some same)
  rw [substitute_literal opened, Substitution.text?_after, Option.map_map, Option.map_map]
  congr 1
  funext text
  exact (if_neg slashed).trans (owner.join_eq (first :: text))

theorem Owner.Settled.replaced?_space (settled : owner.Settled) (member : name ∈ spaceKeys) :
    owner.replaced? ((Piece.key name).text ++ slash :: rest) =
      (substitute owner none rest).text?.map (owner.base ++ ·) := by
  refine replaced?_of_after settled.head?_base ?_
  rw [withoutTilde_of_ne (by rw [head?_key]; decide), substitute_space member]

theorem Owner.Settled.replaced?_tilde (settled : owner.Settled) (member : name ∈ spaceKeys) :
    owner.replaced? (tilde :: slash :: rest) =
      owner.replaced? ((Piece.key name).text ++ slash :: (nodeKey ++ slash :: rest)) := by
  have full : owner.withoutTilde (tilde :: slash :: rest) = owner.base ++ owner.name ++ slash :: rest :=
    congrArg (· ++ slash :: rest) (owner.join_eq owner.name)
  have led : (owner.base ++ owner.name ++ [slash]).head? = some slash := by
    rw [List.append_assoc, List.head?_append, settled.head?_base, Option.some_or]
  have first : substitute owner none (owner.withoutTilde (tilde :: slash :: rest)) =
      (substitute owner none rest).after (owner.base ++ owner.name ++ [slash]) := by
    rw [full, substitute_append settled.openBrace_notMem, substitute_literal (by decide), Substitution.after_after]
  rw [replaced?_of_after led first, settled.replaced?_space member, substitute_node, Substitution.text?_after,
    Option.map_map]
  congr 1
  funext text
  simp

theorem Owner.Settled.expansion?_space (settled : owner.Settled) (member : name ∈ spaceKeys) (relative : Relative rest)
    (short : ((Piece.key name).text ++ slash :: rest).length ≤ 255) :
    owner.expansion? ((Piece.key name).text ++ slash :: rest) = owner.expansion? rest := by
  have leads := leads_key (plain_of_mem_keys (mem_keys_of_mem_spaceKeys member))
  have accepted := leads.checkTopic_iff relative.nonempty (relative.start slash (by decide))
    (relative.start tilde (by decide)) short
  exact expansion?_congr accepted ((settled.replaced?_space member).trans (replaced?_relative relative).symm)

theorem checkTopic_tilde_iff (member : name ∈ spaceKeys) (relative : Relative rest)
    (short : ((Piece.key name).text ++ slash :: (nodeKey ++ slash :: rest)).length ≤ 255) :
    (checkTopic ((Piece.key name).text ++ slash :: (nodeKey ++ slash :: rest))).verdict = .valid ↔
      (checkTopic (tilde :: slash :: rest)).verdict = .valid := by
  have space := leads_key (plain_of_mem_keys (mem_keys_of_mem_spaceKeys member))
  have node : Leads nodeKey := leads_key (plain_of_mem_keys List.mem_cons_self)
  have slashed := relative.start slash (by decide)
  have tilded := relative.start tilde (by decide)
  have shortNode : (nodeKey ++ slash :: rest).length ≤ 255 := by
    rw [List.length_append, List.length_cons] at short
    omega
  have shortTilde : ([tilde] ++ slash :: rest).length ≤ 255 := by
    have width : nodeKey.length = 6 := by decide
    rw [List.length_append, width] at shortNode
    rw [List.length_append, List.length_singleton]
    omega
  calc (checkTopic ((Piece.key name).text ++ slash :: (nodeKey ++ slash :: rest))).verdict = .valid
    _ ↔ (checkTopic (nodeKey ++ slash :: rest)).verdict = .valid :=
        space.checkTopic_iff (by simp [nodeKey]) (by rw [nodeKey, head?_key]; decide)
          (by rw [nodeKey, head?_key]; decide) short
    _ ↔ (checkTopic rest).verdict = .valid := node.checkTopic_iff relative.nonempty slashed tilded shortNode
    _ ↔ (checkTopic (tilde :: slash :: rest)).verdict = .valid :=
        (leads_tilde.checkTopic_iff relative.nonempty slashed tilded shortTilde).symm

theorem Owner.Settled.expansion?_tilde (settled : owner.Settled) (member : name ∈ spaceKeys) (relative : Relative rest)
    (short : ((Piece.key name).text ++ slash :: (nodeKey ++ slash :: rest)).length ≤ 255) :
    owner.expansion? ((Piece.key name).text ++ slash :: (nodeKey ++ slash :: rest)) =
      owner.expansion? (tilde :: slash :: rest) :=
  expansion?_congr (checkTopic_tilde_iff member relative short) (settled.replaced?_tilde member).symm

def belowSpace (rest : Bytes) : List Bytes :=
  [rest, Bytes.ofString "\x7bns\x7d/" ++ rest, Bytes.ofString "\x7bnamespace\x7d/" ++ rest]

def belowNode (rest : Bytes) : List Bytes :=
  [Bytes.ofString "~/" ++ rest, Bytes.ofString "\x7bns\x7d/\x7bnode\x7d/" ++ rest]

theorem Owner.Settled.expansion?_belowSpace (settled : owner.Settled) (relative : Relative rest) :
    ∀ spelling ∈ belowSpace rest, spelling.length ≤ 255 → owner.expansion? spelling = owner.expansion? rest := by
  intro spelling member short
  simp only [belowSpace, List.mem_cons, List.not_mem_nil, or_false] at member
  rcases member with rfl | rfl | rfl
  · rfl
  · exact settled.expansion?_space (by decide : Bytes.ofString "ns" ∈ spaceKeys) relative short
  · exact settled.expansion?_space (by decide : Bytes.ofString "namespace" ∈ spaceKeys) relative short

theorem Owner.Settled.expansion?_belowNode (settled : owner.Settled) (relative : Relative rest) :
    ∀ spelling ∈ belowNode rest, spelling.length ≤ 255 →
      owner.expansion? spelling = owner.expansion? (tilde :: slash :: rest) := by
  intro spelling member short
  rcases List.mem_pair.1 member with rfl | rfl
  · rfl
  · exact settled.expansion?_tilde (by decide : Bytes.ofString "ns" ∈ spaceKeys) relative short

theorem Owner.Settled.expansion?_eq_some (settled : owner.Settled) :
    owner.expansion? topic = some full ↔ owner.Completes topic full := by
  rw [← settled.expand_eq_expanded]
  unfold expansion?
  cases owner.expand topic <;> simp

end PubSub.Name

namespace PubSub.Workspace

open Name (Owner Relative belowSpace belowNode)

variable {owner : Owner} {spellings : List Bytes}

def expansionAnswer : Option Bytes → Answer
  | some full => .expansion .ok (some full)
  | none => .expansion .topicNameInvalid none

/--
Spellings with one and the same outcome, apart from those that are too long: either each of them stands for the one
name that is given, or none of them for any, and every call says so.
-/
def SpelledAlike (owner : Owner) (spellings : List Bytes) : Prop :=
  ∃ outcome : Option Bytes, ∀ spelling ∈ spellings, spelling.length ≤ 255 →
    (∀ full, outcome = some full ↔ owner.Completes spelling full) ∧
      ∀ workspace : Workspace,
        (workspace.step (.expand (some spelling) (some owner.name) (some owner.space) true)).1 = expansionAnswer outcome

theorem answer_expand_settled (settled : owner.Settled) (workspace : Workspace) {topic : Bytes}
    (free : topic.hasNul = false) :
    (workspace.step (.expand (some topic) (some owner.name) (some owner.space) true)).1 =
      expansionAnswer (owner.expansion? topic) := by
  rw [workspace.answer_expand_owner owner free settled.ordinary_name.hasNul settled.ordinary_space.hasNul]
  unfold Owner.expansion?
  cases outcome : owner.expand topic with
  | expanded full => rfl
  | rejected fault => exact congrArg (Answer.expansion · none) (Owner.status_of_expand outcome)
  | endless key => exact absurd outcome (settled.expand_ne_endless topic key)

theorem spelledAlike_of_expansion? (settled : owner.Settled) {outcome : Option Bytes}
    (free : ∀ spelling ∈ spellings, spelling.hasNul = false)
    (same : ∀ spelling ∈ spellings, spelling.length ≤ 255 → owner.expansion? spelling = outcome) :
    SpelledAlike owner spellings := by
  refine ⟨outcome, fun spelling member short => ?_⟩
  rw [← same spelling member short]
  exact ⟨fun full => settled.expansion?_eq_some,
    fun workspace => answer_expand_settled settled workspace (free spelling member)⟩

/-- Whatever a relative topic is, all spellings of it below the namespace expand alike, and so do all below the node. -/
theorem spellings_expand_alike (owner : Owner) {rest : Bytes} (free : rest.hasNul = false) (relative : Relative rest)
    (named : (Name.check .nodeName owner.name).verdict = .valid)
    (placed : (Name.check .nodeNamespace owner.space).verdict = .valid) :
    SpelledAlike owner (belowSpace rest) ∧ SpelledAlike owner (belowNode rest) := by
  have settled : owner.Settled := ⟨named, placed⟩
  have joined : ∀ front : Bytes, front.hasNul = false → (front ++ rest).hasNul = false := by
    intro front clean
    unfold Bytes.hasNul at clean free ⊢
    rw [List.any_append, clean, free, Bool.or_false]
  constructor
  · refine spelledAlike_of_expansion? settled ?_ (settled.expansion?_belowSpace relative)
    simp only [belowSpace, List.forall_mem_cons]
    exact ⟨free, joined _ (by decide), joined _ (by decide), nofun⟩
  · refine spelledAlike_of_expansion? settled ?_ (settled.expansion?_belowNode relative)
    simp only [belowNode, List.forall_mem_cons]
    exact ⟨joined _ (by decide), joined _ (by decide), nofun⟩

/-- In the root namespace, a topic with a key in the middle of it. -/
theorem spellings_expand_alike_root :
    (Bytes.ofString "t_\x7bnode\x7d").hasNul = false ∧ Relative (Bytes.ofString "t_\x7bnode\x7d") ∧
      (Name.check .nodeName (Bytes.ofString "n")).verdict = .valid ∧
      (Name.check .nodeNamespace (Bytes.ofString "/")).verdict = .valid ∧
      SpelledAlike { name := Bytes.ofString "n", space := Bytes.ofString "/" }
        (belowSpace (Bytes.ofString "t_\x7bnode\x7d")) ∧
      SpelledAlike { name := Bytes.ofString "n", space := Bytes.ofString "/" }
        (belowNode (Bytes.ofString "t_\x7bnode\x7d")) := by
  have free : (Bytes.ofString "t_\x7bnode\x7d").hasNul = false := by decide
  have relative : Relative (Bytes.ofString "t_\x7bnode\x7d") := ⟨by decide, by decide +kernel⟩
  have named : (Name.check .nodeName (Bytes.ofString "n")).verdict = .valid := by decide
  have placed : (Name.check .nodeNamespace (Bytes.ofString "/")).verdict = .valid := by decide
  exact ⟨free, relative, named, placed,
    spellings_expand_alike { name := Bytes.ofString "n", space := Bytes.ofString "/" } free relative named placed⟩

end PubSub.Workspace
