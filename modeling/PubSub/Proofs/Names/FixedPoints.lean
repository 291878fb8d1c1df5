import PubSub.Proofs.Calls.Answers
import PubSub.Proofs.Graph.Keyed
import PubSub.Proofs.Names.Completion
import PubSub.Proofs.Names.Findings
import PubSub.Proofs.Names.RemappedTopics

/-!
Full names as topics.  A full topic name is a topic in which nothing can be replaced and nothing has to be put in front,
so it expands to itself against every name and namespace; what was expanded once need not be expanded again.
-/

namespace PubSub.Name

variable {owner : Owner} {topic word : Bytes} {index : Nat}

theorem scanTopic_of_scanFullTopic (clean : scanFullTopic index word = none) : scanTopic false index word = none := by
  induction word generalizing index with
  | nil => rfl
  | cons byte rest ih =>
      by_cases slashed : byte = slash
      · subst slashed
        obtain ⟨apart, later⟩ := scanFullTopic_slash.1 clean
        exact scanTopic_slash.2 ⟨apart, ih later⟩
      · obtain ⟨token, later⟩ := (scanFullTopic_other slashed).1 clean
        obtain ⟨tilded, opened, _⟩ := ne_of_plain (.inl token)
        exact (scanTopic_outside opened tilded slashed).2 ⟨token, ih later⟩

theorem IsFullTopic.isTopic (full : IsFullTopic topic) : (checkTopic topic).verdict = .valid := by
  cases topic with
  | nil => cases full
  | cons first rest =>
      obtain ⟨rfl, ⟨clean, ending⟩, length⟩ := checkFullTopic_cons.1 full
      exact checkTopic_cons.2 ⟨ending, scanTopic_of_scanFullTopic clean, by decide, length⟩

theorem IsFullTopic.ordinary (full : IsFullTopic topic) : Ordinary topic := by
  intro byte member
  exact (full.bytes.2 byte member).imp_right (isTokenByte_iff byte).1

theorem substitute_of_ordinary (ordinary : Ordinary topic) : substitute owner none topic = .finished topic := by
  have replaced := @substitute_append owner topic ordinary.openBrace_notMem []
  rw [List.append_nil] at replaced
  rw [replaced, substitute, Substitution.after, List.append_nil]

/-- A full topic name expands to itself. -/
theorem IsFullTopic.expand (full : IsFullTopic topic) (owner : Owner) : owner.expand topic = .expanded topic := by
  have kept : owner.withoutTilde topic = topic := Owner.withoutTilde_of_ne (by rw [full.bytes.1]; decide)
  have absolute : owner.absolute topic = topic := if_pos full.bytes.1
  have replaced : substitute owner none (owner.withoutTilde topic) = .finished topic := by
    rw [kept]
    exact substitute_of_ordinary full.ordinary
  rw [Owner.expand_of_finished full.isTopic replaced, absolute]
  exact if_pos full

theorem IsFullTopic.renamed? (full : IsFullTopic topic) (owner : Owner) : owner.renamed? [] topic = some topic := by
  unfold Owner.renamed? Owner.expansion?
  rw [full.expand owner]
  rfl

end PubSub.Name

namespace PubSub.Workspace

open Name (Kind Owner IsFullTopic)

/-- A name that an expansion gave, or that an endpoint gives as its topic. -/
inductive Told : Bytes → Prop where
  | expanded {workspace : Workspace} {topic name space : Option Bytes} {wantsOutput : Bool} {full : Bytes}
      (answer : (workspace.step (.expand topic name space wantsOutput)).1 = .expansion .ok (some full)) : Told full
  | publisher {actions : List Action} {name : Option String} {valid : Bool} {full : Bytes}
      (answer : ((empty.run actions).step (.publisherInfo name)).1 = .endpoint valid (some full)) : Told full
  | subscription {actions : List Action} {name : Option String} {valid : Bool} {full : Bytes}
      (answer : ((empty.run actions).step (.subscriptionInfo name)).1 = .endpoint valid (some full)) : Told full

/-- A node that can be used and has no rules, or does not use those that there are. -/
def Unmapped (workspace : Workspace) (node : String) : Prop :=
  ∃ state, workspace.nodes.get? node = some state ∧ workspace.middleware.transport.isValid state.context = true ∧
    workspace.middleware.rulesOf state = []

/-- A name that is accepted and stays as it is wherever it is used. -/
structure Stable (full : Bytes) : Prop where
  accepted : ∀ kind ∈ [Kind.topic, Kind.fullTopic], ∀ workspace : Workspace, ∃ finding,
    (workspace.step (.validate kind (some full) true)).1 = .finding .ok (some finding) ∧ finding.verdict = .valid
  expanded : ∀ (workspace : Workspace) (name space : Bytes),
    workspace.step (.expand (some full) (some name) (some space) true) = (.expansion .ok (some full), workspace)
  publishers : ∀ (workspace : Workspace) (node : String), workspace.Unmapped node → ∀ name,
    workspace.publishers.get? name = none → ∀ kind qos,
      workspace.publisherAnswers name node kind full qos = (.status .ok, .endpoint true (some full))
  subscriptions : ∀ (workspace : Workspace) (node : String), workspace.Unmapped node → ∀ name,
    workspace.subscriptions.get? name = none → ∀ kind qos,
      workspace.subscriptionAnswers name node kind full qos = (.status .ok, .endpoint true (some full))

variable {workspace : Workspace} {full : Bytes}

theorem full_of_expanded {topic name space : Option Bytes} {wantsOutput : Bool}
    (answer : (workspace.step (.expand topic name space wantsOutput)).1 = .expansion .ok (some full)) :
    IsFullTopic full := by
  rw [answer_expand] at answer
  unfold Middleware.expand at answer
  split at answer
  · dsimp only at answer
    split at answer
    · rename_i reached
      cases answer
      exact Owner.expand_full reached
    · cases (Answer.expansion.inj answer).2
    · cases answer
  · cases (Answer.expansion.inj answer).2

theorem Told.isFullTopic (told : Told full) : IsFullTopic full := by
  cases told with
  | expanded answer => exact full_of_expanded answer
  | @publisher actions name valid full answer =>
      obtain ⟨state, found, rfl⟩ := Option.map_eq_some_iff.1 (Answer.endpoint.inj answer).2
      cases name with
      | none => cases found
      | some name => exact (named_empty.run actions).publishers name state found
  | @subscription actions name valid full answer =>
      obtain ⟨state, found, rfl⟩ := Option.map_eq_some_iff.1 (Answer.endpoint.inj answer).2
      cases name with
      | none => cases found
      | some name => exact (named_empty.run actions).subscriptions name state found

/-- What an expansion gave, or an endpoint gives as its topic, is a full topic name and stays as it is. -/
theorem told_stable (told : Told full) : Stable full := by
  have topical := told.isFullTopic
  have free := topical.ordinary.hasNul
  constructor
  · intro kind member workspace
    have answered := workspace.middleware.validate_eq kind free
    refine ⟨Name.check kind full, ?_, ?_⟩
    · unfold step
      dsimp only
      rw [answered]
      rfl
    · rcases List.mem_pair.1 member with rfl | rfl
      · exact topical.isTopic
      · exact topical
  · intro workspace name space
    unfold step Middleware.expand
    dsimp only
    rw [Bytes.beforeNul_of_hasNul_false free, topical.expand]
    rfl
  · rintro workspace node ⟨state, found, runs, unmapped⟩ name absent kind qos
    rw [workspace.publisherAnswers_eq found runs absent, unmapped, Bytes.beforeNul_of_hasNul_false free,
      topical.renamed?]
    rfl
  · rintro workspace node ⟨state, found, runs, unmapped⟩ name absent kind qos
    rw [workspace.subscriptionAnswers_eq found runs absent, unmapped, Bytes.beforeNul_of_hasNul_false free,
      topical.renamed?]
    rfl

def announced : List Action :=
  [.initContext (some "context") (some []) 0,
    .initNode (some "node") (some (Bytes.ofString "talker")) (some (Bytes.ofString "/a")) (some "context") (some true),
    .initPublisher (some "publisher") (some "node") (some (.complete .int64)) (some (Bytes.ofString "~/\x7bnode\x7d"))
      (some Qos.standard)]

theorem told_stable_announced :
    Told (Bytes.ofString "/a/talker/talker") ∧ Stable (Bytes.ofString "/a/talker/talker") := by
  have told : Told (Bytes.ofString "/a/talker/talker") :=
    @Told.publisher announced (some "publisher") true _ (by decide +kernel)
  exact ⟨told, told_stable told⟩

end PubSub.Workspace
