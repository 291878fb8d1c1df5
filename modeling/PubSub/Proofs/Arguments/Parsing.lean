import Mathlib.Data.List.Basic
import PubSub.Middleware.Workspace
import PubSub.Proofs.Arguments.Sections
import PubSub.Proofs.Client.Refusals

/-!
Parsing of argument vectors.  A vector is accepted if it is written as the grammar of sections says, and then each of its
rules has its say; everything else is refused.
-/

namespace PubSub

namespace Mapping

def namesNode (mapping : Mapping) : Bool :=
  decide (mapping.source = Bytes.ofString "__node" ∨ mapping.source = Bytes.ofString "__name")

def namesNamespace (mapping : Mapping) : Bool :=
  mapping.source = Bytes.ofString "__ns"

def namesTopic (mapping : Mapping) : Bool :=
  !mapping.namesNode && !mapping.namesNamespace

def remap (mapping : Mapping) : Name.Remap :=
  { source := mapping.source
    target := mapping.target }

theorem rule_cases (mapping : Mapping) :
    (mapping.namesNode = true ∧ mapping.namesNamespace = false ∧ mapping.namesTopic = false ∧
        mapping.rule = .nodeName mapping.target) ∨
      (mapping.namesNode = false ∧ mapping.namesNamespace = true ∧ mapping.namesTopic = false ∧
        mapping.rule = .nodeNamespace mapping.target) ∨
      mapping.namesNode = false ∧ mapping.namesNamespace = false ∧ mapping.namesTopic = true ∧
        mapping.rule = .topic mapping.remap := by
  unfold namesTopic namesNode namesNamespace rule Rule.make remap
  by_cases node : mapping.source = Bytes.ofString "__node" ∨ mapping.source = Bytes.ofString "__name"
  · have other : mapping.source ≠ Bytes.ofString "__ns" := by
      rcases node with same | same <;> rw [same] <;> decide
    exact .inl (by simp [node, other])
  · by_cases space : mapping.source = Bytes.ofString "__ns"
    · rw [space] at node ⊢
      exact .inr (.inl (by simp [node]))
    · exact .inr (.inr (by simp [node, space]))

/-- What the last rule of some kind makes of what it renames, if there is one. -/
def lastTarget (accepts : Mapping → Bool) (mappings : List Mapping) : Option Bytes :=
  ((mappings.filter accepts).getLast?).map target

theorem lastTarget_cons (accepts : Mapping → Bool) (mapping : Mapping) (rest : List Mapping) :
    lastTarget accepts (mapping :: rest) =
      (lastTarget accepts rest).or (if accepts mapping then some mapping.target else none) := by
  unfold lastTarget
  by_cases accepted : accepts mapping = true
  · rw [List.filter_cons_of_pos accepted, List.getLast?_cons, if_pos accepted]
    cases (rest.filter accepts).getLast? <;> rfl
  · rw [List.filter_cons_of_neg accepted, if_neg accepted, Option.or_none]

end Mapping

/-- The arguments that a vector comes to where it is written as the grammar says. -/
def CommandLine.arguments (line : CommandLine) : Arguments :=
  { given := line.text
    nodeName := Mapping.lastTarget Mapping.namesNode line.mappings
    nodeNamespace := Mapping.lastTarget Mapping.namesNamespace line.mappings
    remaps := (line.mappings.filter Mapping.namesTopic).map Mapping.remap }

namespace Arguments

theorem foldl_addRule (mappings : List Mapping) (arguments : Arguments) :
    (mappings.map Mapping.rule).foldl addRule arguments =
      { arguments with
        nodeName := (Mapping.lastTarget Mapping.namesNode mappings).or arguments.nodeName
        nodeNamespace := (Mapping.lastTarget Mapping.namesNamespace mappings).or arguments.nodeNamespace
        remaps := arguments.remaps ++ (mappings.filter Mapping.namesTopic).map Mapping.remap } := by
  induction mappings generalizing arguments with
  | nil => simp [Mapping.lastTarget]
  | cons mapping rest ih =>
      rw [List.map_cons, List.foldl_cons, ih, Mapping.lastTarget_cons, Mapping.lastTarget_cons, Option.or_assoc,
        Option.or_assoc, List.filter_cons]
      rcases mapping.rule_cases with ⟨node, space, topic, rule⟩ | ⟨node, space, topic, rule⟩ | ⟨node, space, topic, rule⟩
      · simp [node, space, topic, rule, addRule]
      · simp [node, space, topic, rule, addRule]
      · simp [node, space, topic, rule, addRule]

theorem ofRules_mappings (line : CommandLine) :
    ofRules line.text (line.mappings.map Mapping.rule) = line.arguments := by
  unfold ofRules
  rw [foldl_addRule]
  simp [CommandLine.arguments, empty]

theorem readRules_entries (entries : List Entry) {rest : List (Option Bytes)} {rules : List Rule}
    (reads : ∀ index, readRules .inSection index rest = .ok rules) (index : Nat) :
    readRules .inSection index ((entries.flatMap Entry.text).map some ++ rest) =
      .ok ((entries.flatMap Entry.mappings).map Mapping.rule ++ rules) := by
  induction entries generalizing index with
  | nil => exact reads index
  | cons entry entries ih =>
      cases entry with
      | again =>
          simp only [List.flatMap_cons, Entry.text, List.map_cons, List.cons_append]
          rw [readRules, if_neg (by decide), if_pos rfl]
          exact ih (index + 1)
      | rule long mapping =>
          have flag : (if long then longRuleFlag else ruleFlag) ≠ sectionEnd ∧
              (if long then longRuleFlag else ruleFlag) ≠ sectionFlag ∧
              ((if long then longRuleFlag else ruleFlag) = ruleFlag ∨
                (if long then longRuleFlag else ruleFlag) = longRuleFlag) := by
            cases long <;> decide
          simp only [List.flatMap_cons, Entry.text, List.cons_append, List.nil_append, List.map_cons]
          rw [readRules, if_neg flag.1, if_neg flag.2.1, if_pos flag.2.2, readRules, mapping.parse_text]
          dsimp only
          rw [ih]
          rfl

/-- A vector that is written as the grammar says has its rules read, in order. -/
theorem readRules_text (line : CommandLine) (index : Nat) :
    readRules .outside index (line.text.map some) = .ok (line.mappings.map Mapping.rule) := by
  induction line generalizing index with
  | done => rfl
  | own argument foreign clean rest ih =>
      rw [CommandLine.text, List.map_cons, readRules, if_neg foreign]
      exact ih (index + 1)
  | closed entries rest ih =>
      rw [CommandLine.text, List.map_cons, readRules, if_pos rfl, List.map_append, List.map_cons,
        CommandLine.mappings, List.map_append]
      refine readRules_entries entries (fun next => ?_) (index + 1)
      rw [readRules, if_pos rfl]
      exact ih (next + 1)
  | opened entries =>
      have ends : ∀ next, readRules .inSection next [] = .ok [] := fun next => rfl
      have read := readRules_entries entries ends (index + 1)
      rw [List.append_nil, List.append_nil] at read
      rw [CommandLine.text, List.map_cons, readRules, if_pos rfl]
      exact read

def sectionText (entries : List Entry) (rest : Option CommandLine) : List Bytes :=
  entries.flatMap Entry.text ++ rest.elim [] (fun line => sectionEnd :: line.text)

theorem exists_line_of_sectionText (entries : List Entry) (rest : Option CommandLine) :
    ∃ line : CommandLine, line.text = sectionFlag :: sectionText entries rest := by
  cases rest with
  | none => exact ⟨.opened entries, congrArg (List.cons sectionFlag) (List.append_nil _).symm⟩
  | some line => exact ⟨.closed entries line, rfl⟩

def Written (texts : List (Option Bytes)) : Place → Prop
  | .outside => ∃ line : CommandLine, texts = line.text.map some
  | .inSection => ∃ entries rest, texts = (sectionText entries rest).map some
  | .afterFlag _ => ∃ (mapping : Mapping) (entries : List Entry) (rest : Option CommandLine),
      texts = (mapping.text :: sectionText entries rest).map some

/-- Nothing is read to its end but what is written as the grammar says. -/
theorem written_of_readRules {texts : List (Option Bytes)} {place : Place} {index : Nat} {rules : List Rule}
    (clean : ∀ text, some text ∈ texts → text.hasNul = false) (read : readRules place index texts = .ok rules) :
    Written texts place := by
  induction texts generalizing place index rules with
  | nil =>
      cases place with
      | outside => exact ⟨.done, rfl⟩
      | inSection => exact ⟨[], none, rfl⟩
      | afterFlag flag => cases read
  | cons argument rest ih =>
      have others : ∀ text, some text ∈ rest → text.hasNul = false :=
        fun text member => clean text (List.mem_cons_of_mem _ member)
      cases argument with
      | none => cases place <;> cases read
      | some argument =>
          have mine := clean argument List.mem_cons_self
          cases place with
          | outside =>
              rw [readRules] at read
              by_cases opens : argument = sectionFlag
              · rw [if_pos opens] at read
                obtain ⟨entries, more, rfl⟩ := ih others read
                obtain ⟨line, text⟩ := exists_line_of_sectionText entries more
                exact ⟨line, by rw [text, opens, List.map_cons]⟩
              · rw [if_neg opens] at read
                obtain ⟨line, rfl⟩ := ih others read
                exact ⟨.own argument opens mine line, rfl⟩
          | inSection =>
              rw [readRules] at read
              by_cases ends : argument = sectionEnd
              · rw [if_pos ends] at read
                obtain ⟨line, rfl⟩ := ih others read
                exact ⟨[], some line, by rw [ends]; rfl⟩
              · rw [if_neg ends] at read
                by_cases again : argument = sectionFlag
                · rw [if_pos again] at read
                  obtain ⟨entries, more, rfl⟩ := ih others read
                  exact ⟨.again :: entries, more, by rw [again]; rfl⟩
                · rw [if_neg again] at read
                  by_cases flag : argument = ruleFlag ∨ argument = longRuleFlag
                  · rw [if_pos flag] at read
                    obtain ⟨mapping, entries, more, rfl⟩ := ih others read
                    rcases flag with rfl | rfl
                    · exact ⟨.rule false mapping :: entries, more, rfl⟩
                    · exact ⟨.rule true mapping :: entries, more, rfl⟩
                  · rw [if_neg flag] at read
                    cases read
          | afterFlag flag =>
              rw [readRules] at read
              cases parsed : Rule.parse argument with
              | error fault =>
                  rw [parsed] at read
                  cases read
              | ok rule =>
                  obtain ⟨mapping, rfl, _⟩ := Mapping.exists_of_parse mine parsed
                  cases later : readRules .inSection (index + 1) rest with
                  | error fault =>
                      rw [parsed, later] at read
                      cases read
                  | ok more =>
                      obtain ⟨entries, tail, rfl⟩ := ih others later
                      exact ⟨mapping, entries, tail, rfl⟩

/-- A vector reads as the grammar says; each of its elements ends at its first zero byte. -/
def ReadsAs (vector : Option (List (Option Bytes))) (line : CommandLine) : Prop :=
  (vector.getD []).map (Option.map Bytes.beforeNul) = line.text.map some

theorem ReadsAs.eq {vector : Option (List (Option Bytes))} {first second : CommandLine} (reads : ReadsAs vector first)
    (also : ReadsAs vector second) : first = second :=
  CommandLine.text_injective (List.map_injective_iff.2 (Option.some_injective _) (reads.symm.trans also))

theorem parse_length (vector : Option (List (Option Bytes))) :
    parse vector (vector.getD []).length = ofList (vector.getD []) := by
  unfold parse
  rw [if_neg (Int.not_lt.2 (Int.natCast_nonneg _))]
  cases vector with
  | none => rfl
  | some arguments =>
      simp

theorem ofList_of_readsAs {vector : Option (List (Option Bytes))} {line : CommandLine} (reads : ReadsAs vector line) :
    ofList (vector.getD []) = .ok line.arguments := by
  unfold ofList
  rw [show (vector.getD []).map (Option.map Bytes.beforeNul) = line.text.map some from reads]
  dsimp only
  rw [readRules_text, List.filterMap_map]
  dsimp only
  rw [← ofRules_mappings]
  simp

theorem exists_readsAs_of_ofList {vector : Option (List (Option Bytes))} {arguments : Arguments}
    (parsed : ofList (vector.getD []) = .ok arguments) : ∃ line, ReadsAs vector line := by
  unfold ofList at parsed
  dsimp only at parsed
  cases read : readRules .outside 0 ((vector.getD []).map (Option.map Bytes.beforeNul)) with
  | error fault =>
      rw [read] at parsed
      cases parsed
  | ok rules =>
      refine written_of_readRules ?_ read
      intro text member
      obtain ⟨given, _, cut⟩ := List.mem_map.1 member
      obtain ⟨bytes, rfl, rfl⟩ := Option.map_eq_some_iff.1 cut
      exact bytes.hasNul_beforeNul

/-- What is written is read as it was meant. -/
theorem readsAs_text (line : CommandLine) : ReadsAs (some (line.text.map some)) line := by
  unfold ReadsAs
  rw [Option.getD_some, List.map_map]
  refine List.map_congr_left (fun text member => congrArg some ?_)
  exact Bytes.beforeNul_of_hasNul_false (line.clean text member)

end Arguments

/--
A vector is accepted if it can be read as the grammar says, in the one way there is, and then its rules are extracted;
any other vector is refused.  Whatever is written as the grammar says is read back.
-/
theorem Workspace.parses_exactly (workspace : Workspace) :
    (∀ vector : Option (List (Option Bytes)),
      (∃ line, Arguments.ReadsAs vector line ∧ (∀ other, Arguments.ReadsAs vector other → other = line) ∧
          (workspace.step (.parseArguments vector (vector.getD []).length true)).1 =
            .arguments .ok (some line.arguments)) ∨
        (∀ line, ¬ Arguments.ReadsAs vector line) ∧
          (workspace.step (.parseArguments vector (vector.getD []).length true)).1 =
            .arguments .invalidArgument none) ∧
      ∀ line : CommandLine,
        (workspace.step (.parseArguments (some (line.text.map some)) line.text.length true)).1 =
          .arguments .ok (some line.arguments) := by
  have accepts : ∀ {vector line}, Arguments.ReadsAs vector line →
      (workspace.step (.parseArguments vector (vector.getD []).length true)).1 =
        .arguments .ok (some line.arguments) := by
    intro vector line reads
    unfold step Middleware.parseArguments
    dsimp only
    rw [if_pos rfl, Arguments.parse_length, Arguments.ofList_of_readsAs reads]
    rfl
  constructor
  · intro vector
    cases parsed : Arguments.ofList (vector.getD []) with
    | ok arguments =>
        obtain ⟨line, reads⟩ := Arguments.exists_readsAs_of_ofList parsed
        exact .inl ⟨line, reads, fun other also => also.eq reads, accepts reads⟩
    | error fault =>
        refine .inr ⟨fun line reads => ?_, ?_⟩
        · exact nomatch (Arguments.ofList_of_readsAs reads).symm.trans parsed
        · have failed := (Arguments.parse_length vector).trans parsed
          unfold step Middleware.parseArguments
          dsimp only
          rw [if_pos rfl, failed, ← Arguments.status_of_parse failed]
          rfl
  · intro line
    have read := accepts (Arguments.readsAs_text line)
    rw [Option.getD_some, List.length_map] at read
    exact read

end PubSub
