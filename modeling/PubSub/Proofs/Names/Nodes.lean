import PubSub.Proofs.Names.Completion
import PubSub.Proofs.Validity.Ended

/-!
Names of nodes.  A node gets the name and the namespace that the arguments of its context put in the place of its own,
the namespace made absolute.  It is made exactly if these are in the grammars of node names and namespaces, and what it
then tells of itself is settled: a node that asks for it gets it again, and no other name and namespace have the same
full name.
-/

namespace PubSub

namespace Name

/-- The target of a rule where rules are used and one has it for this, or else what was asked for. -/
def chosen (enabled : Bool) (target : Option Bytes) (asked : Bytes) : Bytes :=
  match enabled, target with
  | true, some target => target
  | _, _ => asked

def normalized : Bytes → Bytes
  | [] => root
  | first :: rest => if first = slash then first :: rest else slash :: first :: rest

def Owner.requested (arguments : Arguments) (enabled : Bool) (name space : Bytes) : Owner :=
  { name := chosen enabled arguments.nodeName name
    space := normalized (chosen enabled arguments.nodeNamespace space) }

instance (kind : Kind) (name : Bytes) : Decidable (name ∈ kind.grammar) :=
  decidable_of_iff _ (check_valid_iff kind name)

def Owner.status (owner : Owner) : Status :=
  if owner.name ∉ Kind.nodeName.grammar then .nodeInvalidName
  else if owner.space ∉ Kind.nodeNamespace.grammar then .nodeInvalidNamespace
  else .ok

variable {owner other : Owner} {name space : Bytes}

theorem Owner.status_ok_iff :
    owner.status = .ok ↔ owner.name ∈ Kind.nodeName.grammar ∧ owner.space ∈ Kind.nodeNamespace.grammar := by
  unfold Owner.status
  by_cases named : owner.name ∈ Kind.nodeName.grammar
  · by_cases placed : owner.space ∈ Kind.nodeNamespace.grammar <;> simp [named, placed]
  · simp [named]

theorem Owner.status_nodeInvalidName_iff : owner.status = .nodeInvalidName ↔ owner.name ∉ Kind.nodeName.grammar := by
  unfold Owner.status
  by_cases named : owner.name ∈ Kind.nodeName.grammar
  · by_cases placed : owner.space ∈ Kind.nodeNamespace.grammar <;> simp [named, placed]
  · simp [named]

theorem Owner.status_nodeInvalidNamespace_iff :
    owner.status = .nodeInvalidNamespace ↔
      owner.name ∈ Kind.nodeName.grammar ∧ owner.space ∉ Kind.nodeNamespace.grammar := by
  unfold Owner.status
  by_cases named : owner.name ∈ Kind.nodeName.grammar
  · by_cases placed : owner.space ∈ Kind.nodeNamespace.grammar <;> simp [named, placed]
  · simp [named]

theorem Owner.settled_iff : owner.Settled ↔ owner.status = .ok := by
  rw [Owner.status_ok_iff, ← check_valid_iff, ← check_valid_iff]
  exact ⟨fun settled => ⟨settled.named, settled.placed⟩, fun both => ⟨both.1, both.2⟩⟩

theorem Owner.fullName_eq (owner : Owner) :
    owner.fullName = (if owner.space = root then [] else owner.space) ++ slash :: owner.name := by
  unfold Owner.fullName join
  split <;> rfl

theorem Owner.Settled.slash_notMem (settled : owner.Settled) : slash ∉ owner.name := by
  have member := (checkNodeName_valid_iff.1 settled.named).1
  intro inside
  cases content : owner.name with
  | nil => exact absurd inside (by simp [content])
  | cons first rest =>
      rw [content] at member inside
      obtain ⟨starter, tokens⟩ := cons_mem_token.1 member
      rcases List.mem_cons.1 inside with same | later
      · exact slash_notMem_tokenBytes (same ▸ ((mem_starters_iff _).1 starter).1)
      · exact slash_notMem_tokenBytes (tokens slash later)

theorem Owner.Settled.space_head (settled : owner.Settled) : owner.space.head? = some slash := by
  rcases settled.space_full with top | full
  · rw [top]
    rfl
  · exact full.bytes.1

/-- The last slash of a full name parts the name from the namespace, which is the root where nothing is before it. -/
theorem Owner.Settled.fullName_injective (settled : owner.Settled) (also : other.Settled)
    (same : owner.fullName = other.fullName) : owner = other := by
  rw [owner.fullName_eq, other.fullName_eq] at same
  have backwards := congrArg List.reverse same
  simp only [List.reverse_append, List.reverse_cons, List.append_assoc, List.singleton_append] at backwards
  obtain ⟨names, fronts⟩ := Bytes.split_mark (fun inside => settled.slash_notMem (List.mem_reverse.1 inside))
    (fun inside => also.slash_notMem (List.mem_reverse.1 inside)) backwards
  have spaces : owner.space = other.space := by
    have given := List.reverse_injective fronts
    have filled : owner.space ≠ [] := fun empty => nomatch empty ▸ settled.space_head
    have filledToo : other.space ≠ [] := fun empty => nomatch empty ▸ also.space_head
    by_cases top : owner.space = root
    · by_cases topToo : other.space = root
      · rw [top, topToo]
      · rw [if_pos top, if_neg topToo] at given
        exact absurd given.symm filledToo
    · by_cases topToo : other.space = root
      · rw [if_neg top, if_pos topToo] at given
        exact absurd given filled
      · rwa [if_neg top, if_neg topToo] at given
  cases owner
  cases other
  exact congrArg₂ Owner.mk (List.reverse_injective names) spaces

theorem normalized_of_head (absolute : space.head? = some slash) : normalized space = space := by
  cases space with
  | nil => cases absolute
  | cons first rest => exact if_pos (Option.some.inj absolute)

theorem Owner.Settled.requested (settled : owner.Settled) (arguments : Arguments) :
    Owner.requested arguments false owner.name owner.space = owner :=
  congrArg (Owner.mk owner.name) (normalized_of_head settled.space_head)

theorem Owner.Settled.beforeNul (settled : owner.Settled) :
    owner.name.beforeNul = owner.name ∧ owner.space.beforeNul = owner.space :=
  ⟨Bytes.beforeNul_of_hasNul_false settled.ordinary_name.hasNul,
    Bytes.beforeNul_of_hasNul_false settled.ordinary_space.hasNul⟩

end Name

open Name (Owner Kind)

namespace Middleware

variable {middleware : Middleware}

theorem absoluteNamespace_eq (space : Bytes) : absoluteNamespace space = Name.normalized space := by
  unfold absoluteNamespace
  cases space with
  | nil => rfl
  | cons first rest => simp only [List.head?_cons, Option.some.injEq, Name.normalized]

theorem effectiveOwner_eq (arguments : Arguments) (enabled : Bool) (name space : Bytes) :
    effectiveOwner arguments enabled name space = Owner.requested arguments enabled name space := by
  unfold effectiveOwner Owner.requested
  rw [absoluteNamespace_eq, absoluteNamespace_eq]
  cases enabled with
  | false => rfl
  | true => cases arguments.nodeName <;> cases arguments.nodeNamespace <;> rfl

theorem ownerFault?_cases (owner : Owner) :
    ownerFault? owner = none ∧ owner.status = .ok ∨
      ∃ fault, ownerFault? owner = some fault ∧ fault.status = owner.status := by
  have ofName := Name.check_valid_iff .nodeName owner.name
  have ofSpace := Name.check_valid_iff .nodeNamespace owner.space
  unfold ownerFault? Owner.status
  simp only [← ofName, ← ofSpace, Name.check]
  split
  · exact .inr ⟨_, rfl, rfl⟩
  · split
    · exact .inr ⟨_, rfl, rfl⟩
    · exact .inl ⟨rfl, rfl⟩

/-- In a context that runs, a node is made, or fails with what is said to its name and namespace. -/
theorem initNode_of_valid {context : Nat} (runs : middleware.transport.isValid context = true)
    (name space : Bytes) (enabled : Bool) :
    let owner := Owner.requested (middleware.transport.arguments context) enabled name.beforeNul space.beforeNul
    let outcome :=
      middleware.initNode (some none) (some name) (some space) (some (some context)) (some enabled)
    owner.status = .ok ∧ outcome = (.ok { owner, useArguments := enabled, context }, middleware) ∨
      ∃ fault, fault.status = owner.status ∧ outcome = middleware.fail fault := by
  intro owner outcome
  have ends : outcome =
      (ownerFault? owner).elim (.ok { owner, useArguments := enabled, context }, middleware) middleware.fail := by
    change middleware.initNode _ _ _ _ _ = _
    unfold initNode
    dsimp only
    rw [if_pos runs, effectiveOwner_eq]
    change _ = (ownerFault? owner).elim _ _
    cases ownerFault? owner <;> rfl
  rcases ownerFault?_cases owner with ⟨none, good⟩ | ⟨fault, found, said⟩
  · exact .inl ⟨good, ends.trans (by rw [none, Option.elim_none])⟩
  · exact .inr ⟨fault, said, ends.trans (by rw [found, Option.elim_some])⟩

end Middleware

namespace Workspace

variable {workspace : Workspace} {node context : String} {arguments : Arguments}

/-- A node that is not there yet can be made in a context that runs, with these arguments. -/
def Hosts (workspace : Workspace) (node context : String) (arguments : Arguments) : Prop :=
  workspace.nodes.get? node = none ∧
    ∃ number, workspace.contexts.get? context = some number ∧
      workspace.middleware.transport.isValid number = true ∧
      workspace.middleware.transport.arguments number = arguments

/-- What is answered where a node is made, and what is then told of the node. -/
def nodeAnswers (workspace : Workspace) (node context : String) (name space : Bytes) (enabled : Bool) :
    Answer × Answer :=
  let (answer, after) := workspace.step (.initNode (some node) (some name) (some space) (some context) (some enabled))
  (answer, (after.step (.nodeInfo (some node))).1)

def answersFor (owner : Owner) : Answer × Answer :=
  (.status owner.status, if owner.status = .ok then .node true (some owner) else .node false none)

theorem step_initNode_error {name space : Option Bytes} {contextName : Option String} {options : Option Bool}
    {fault : Fault} {changed : Middleware}
    (failed : workspace.middleware.initNode (slot workspace.nodes (some node)) name space
      (slot workspace.contexts contextName) options = (.error fault, changed)) :
    workspace.step (.initNode (some node) name space contextName options) =
      (.status fault.status, workspace.withMiddleware changed) := by
  unfold step
  dsimp only
  rw [failed]
  rfl

theorem step_initNode_ok {name space : Option Bytes} {contextName : Option String} {options : Option Bool}
    {state : NodeState} {changed : Middleware}
    (made : workspace.middleware.initNode (slot workspace.nodes (some node)) name space
      (slot workspace.contexts contextName) options = (.ok state, changed)) :
    workspace.step (.initNode (some node) name space contextName options) =
      (.status .ok, { workspace with
        middleware := changed
        nodes := workspace.nodes.set node state }) := by
  unfold step
  dsimp only
  rw [made]
  rfl

theorem nodeInfo_of_free (free : workspace.nodes.get? node = none) :
    (workspace.step (.nodeInfo (some node))).1 = .node false none := by
  unfold step
  dsimp only
  rw [slot_eq free]
  rfl

theorem Hosts.nodeAnswers_eq (hosts : workspace.Hosts node context arguments) (name space : Bytes) (enabled : Bool) :
    workspace.nodeAnswers node context name space enabled =
      answersFor (Owner.requested arguments enabled name.beforeNul space.beforeNul) := by
  obtain ⟨free, number, held, runs, rfl⟩ := hosts
  have ends := Middleware.initNode_of_valid runs name space enabled
  rw [← slot_eq free, ← slot_eq held] at ends
  generalize Owner.requested (workspace.middleware.transport.arguments number) enabled name.beforeNul
    space.beforeNul = owner at ends ⊢
  unfold nodeAnswers answersFor
  rcases ends with ⟨good, made⟩ | ⟨fault, said, failed⟩
  · have there := workspace.nodes.get?_set node node { owner, useArguments := enabled, context := number }
    rw [step_initNode_ok made, good, if_pos rfl]
    refine congrArg (Prod.mk _) ((answer_nodeInfo (there.trans (if_pos rfl))).trans ?_)
    exact congrArg (Answer.node · (some owner)) runs
  · rw [step_initNode_error failed, ← said, if_neg fault.status_ne_ok]
    exact congrArg (Prod.mk _) (nodeInfo_of_free free)

/-- What a node of a context is made as, told by the grammars of names. -/
structure NamesNodes (workspace : Workspace) (node context : String) (arguments : Arguments) : Prop where
  made : ∀ name space enabled,
    let owner := Owner.requested arguments enabled name.beforeNul space.beforeNul
    (workspace.nodeAnswers node context name space enabled).1 = .status .ok ↔
      owner.name ∈ Kind.nodeName.grammar ∧ owner.space ∈ Kind.nodeNamespace.grammar
  badName : ∀ name space enabled,
    let owner := Owner.requested arguments enabled name.beforeNul space.beforeNul
    (workspace.nodeAnswers node context name space enabled).1 = .status .nodeInvalidName ↔
      owner.name ∉ Kind.nodeName.grammar
  badSpace : ∀ name space enabled,
    let owner := Owner.requested arguments enabled name.beforeNul space.beforeNul
    (workspace.nodeAnswers node context name space enabled).1 = .status .nodeInvalidNamespace ↔
      owner.name ∈ Kind.nodeName.grammar ∧ owner.space ∉ Kind.nodeNamespace.grammar
  told : ∀ name space enabled,
    let owner := Owner.requested arguments enabled name.beforeNul space.beforeNul
    (workspace.nodeAnswers node context name space enabled).2 =
      if (workspace.nodeAnswers node context name space enabled).1 = .status .ok then .node true (some owner)
      else .node false none
  /-- Without rules, what a node tells of itself is what another gets that asks for it, wherever that one is made. -/
  again : ∀ name space enabled owner,
    workspace.nodeAnswers node context name space enabled = (.status .ok, .node true (some owner)) →
      ∀ (other : Workspace) otherNode otherContext others, other.Hosts otherNode otherContext others →
        other.nodeAnswers otherNode otherContext owner.name owner.space false =
          (.status .ok, .node true (some owner))
  /-- Nodes of one full name have the same name and the same namespace. -/
  apart : ∀ name space enabled owner,
    workspace.nodeAnswers node context name space enabled = (.status .ok, .node true (some owner)) →
      ∀ (other : Workspace) otherNode otherContext others, other.Hosts otherNode otherContext others →
        ∀ name space enabled same,
          other.nodeAnswers otherNode otherContext name space enabled = (.status .ok, .node true (some same)) →
            owner.fullName = same.fullName → owner = same

theorem settled_of_answersFor {asked owner : Owner}
    (answers : answersFor asked = (.status .ok, .node true (some owner))) : asked = owner ∧ owner.Settled := by
  have good : asked.status = .ok := Answer.status.inj (congrArg Prod.fst answers)
  have told := congrArg Prod.snd answers
  unfold answersFor at told
  dsimp only at told
  rw [if_pos good] at told
  cases told
  exact ⟨rfl, Name.Owner.settled_iff.2 good⟩

theorem answersFor_settled {owner : Owner} (settled : owner.Settled) :
    answersFor owner = (.status .ok, .node true (some owner)) := by
  unfold answersFor
  rw [Name.Owner.settled_iff.1 settled, if_pos rfl]

theorem Hosts.namesNodes (hosts : workspace.Hosts node context arguments) :
    workspace.NamesNodes node context arguments := by
  have same : ∀ first second : Status, Answer.status first = .status second ↔ first = second :=
    fun first second => ⟨Answer.status.inj, congrArg Answer.status⟩
  constructor
  · intro name space enabled owner
    rw [hosts.nodeAnswers_eq]
    exact (same _ _).trans Name.Owner.status_ok_iff
  · intro name space enabled owner
    rw [hosts.nodeAnswers_eq]
    exact (same _ _).trans Name.Owner.status_nodeInvalidName_iff
  · intro name space enabled owner
    rw [hosts.nodeAnswers_eq]
    exact (same _ _).trans Name.Owner.status_nodeInvalidNamespace_iff
  · intro name space enabled owner
    rw [hosts.nodeAnswers_eq]
    exact ite_congr (propext (same owner.status .ok).symm) (fun _ => rfl) (fun _ => rfl)
  · intro name space enabled owner answers other otherNode otherContext others also
    rw [hosts.nodeAnswers_eq] at answers
    obtain ⟨_, settled⟩ := settled_of_answersFor answers
    rw [also.nodeAnswers_eq, settled.beforeNul.1, settled.beforeNul.2, settled.requested]
    exact answersFor_settled settled
  · intro name space enabled owner answers other otherNode otherContext others also name space enabled same told full
    rw [hosts.nodeAnswers_eq] at answers
    rw [also.nodeAnswers_eq] at told
    exact (settled_of_answersFor answers).2.fullName_injective (settled_of_answersFor told).2 full

end Workspace

end PubSub
