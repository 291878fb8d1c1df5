import PubSub.Proofs.Client.Reasons
import PubSub.Proofs.Client.Standing
import PubSub.Proofs.Names.Nodes

/-!
Nodes of a client.  A client is refused a name or a namespace that holds a zero byte, where the middleware would see its
end; of all others it gets the nodes that the middleware makes, and is told their names.
-/

namespace PubSub

open Name (Owner Kind)

namespace Session

variable {session : Session} {handles nodes subscriptions : List Nat} {name context : String} {handle : Nat}
  {nodeName space : Bytes} {state : NodeState} {middleware : Middleware}

theorem Owned.exists_of_nodeName (owned : session.Owned handles nodes subscriptions) {index : Nat}
    (named : session.nodeNames.get? name = some index) : ∃ object, session.nodes.get? index = some object := by
  have here := session.nodeNames.le_total named (fun owner => [owner].count index)
  rw [List.count_singleton_self] at here
  refine (owned.nodes.held_iff index).1 ?_
  unfold nodeHolders
  omega

theorem namedNode?_nodeMade (owned : session.Owned handles nodes subscriptions) (name : String)
    (found : session.contextNames.get? context = some handle) (cleanName : nodeName.hasNul = false)
    (cleanSpace : space.hasNul = false)
    (made : (Request.initNode nodeName space (session.contextSlot handle)).outcome session.middleware =
      (.ok state, middleware)) :
    let after := session.nodeMade name nodeName handle state middleware
    ∃ index object, after.namedNode? name = some (index, object) ∧
      object.handle = session.forest.handles.next ∧
      nodeSlot (after.forest.get? object.handle) = some (some state) := by
  intro after
  have ownedAfter := (Makes.node name found cleanName cleanSpace made).owned owned
  let made := (({ session with middleware } : Session).makeHandle (Run.quotedKind "node" nodeName)
    (.node (some state)) (some handle)).2
  let object : NodeObject :=
    { handle := session.forest.handles.next, context := handle, subscriptions := [], owners := 1 }
  let inserted : Session :=
    { made.retainHandle handle with nodes := ((made.retainHandle handle).nodes.insert object).2 }
  have shrinks : inserted.Shrinks after :=
    (inserted.shrinks_nameNode name session.nodes.next).trans (shrinks_noteMade _ _ _ _)
  have named : after.nodeNames.get? name = some session.nodes.next :=
    (Table.get?_set _ name name session.nodes.next).trans (if_pos rfl)
  obtain ⟨held, there⟩ := ownedAfter.exists_of_nodeName named
  have its : held.handle = session.forest.handles.next := by
    obtain ⟨old, before, same⟩ := shrinks.nodes _ held there
    have first := ((made.retainHandle handle).nodes.get?_insert object session.nodes.next).trans (if_pos rfl)
    cases before.symm.trans first
    exact (congrArg Prod.fst same).symm
  refine ⟨session.nodes.next, held, ?_, its, ?_⟩
  · unfold namedNode?
    rw [named]
    exact congrArg (fun found? => found?.bind fun found => some (session.nodes.next, found)) there
  · obtain ⟨resource, parent, holds⟩ := exists_holds (ownedAfter.exists_of_node there).1
    have before : made.Holds held.handle resource parent :=
      (made.shrinks_retainHandle handle).holds (shrinks.holds holds)
    obtain ⟨rfl, rfl⟩ := holds_made (its ▸ before)
    exact nodeSlot_of_holds holds

/-- The context of a name runs, with these arguments. -/
def Runs (session : Session) (context : String) (arguments : Arguments) : Prop :=
  ∃ handle number, session.contextNames.get? context = some handle ∧ session.contextSlot handle = some number ∧
    session.middleware.transport.isValid number = true ∧
    session.middleware.transport.arguments number = arguments

end Session

namespace Run

variable {session : Session} {context : String} {arguments : Arguments}

theorem run_describeNode_of_slot {handle : Nat} {state : NodeState}
    (slot : Session.nodeSlot (session.forest.get? handle) = some (some state)) :
    (describeNode handle).run session =
      (.ok (.node state.owner.name state.owner.space state.owner.fullName), session) := by
  unfold describeNode
  rw [run_view_bind, slot]
  rfl

variable {name : String} {nodeName space : Bytes}

/-- A node that is refused raises what is said to its name and namespace. -/
theorem run_makeNode_of_bad (runs : session.Runs context arguments) (name : String)
    (cleanName : nodeName.hasNul = false) (cleanSpace : space.hasNul = false)
    (bad : (Owner.requested arguments true nodeName space).status ≠ .ok) :
    ∃ message, ((makeNode name context nodeName space).run session).1 =
      .error (.raised (.failure .nodeCreation (Owner.requested arguments true nodeName space).status message)) := by
  obtain ⟨handle, number, found, slot, valid, rfl⟩ := runs
  have ends := Middleware.initNode_of_valid valid nodeName space true
  rw [Bytes.beforeNul_of_hasNul_false cleanName, Bytes.beforeNul_of_hasNul_false cleanSpace] at ends
  rcases ends with ⟨good, _⟩ | ⟨fault, said, failed⟩
  · exact absurd good bad
  · rw [run_makeNode found, cleanName, cleanSpace, slot, if_neg Bool.false_ne_true, if_neg Bool.false_ne_true, ← said]
    exact ⟨_, congrArg (fun outcome => (goOn session .nodeCreation _ _ outcome).1) failed⟩

theorem run_makeNode_of_good {handles nodes subscriptions : List Nat}
    (owned : session.Owned handles nodes subscriptions) (runs : session.Runs context arguments) (name : String)
    (cleanName : nodeName.hasNul = false) (cleanSpace : space.hasNul = false)
    (good : (Owner.requested arguments true nodeName space).status = .ok) :
    let owner := Owner.requested arguments true nodeName space
    ∃ after, (makeNode name context nodeName space).run session =
        (.ok (.node owner.name owner.space owner.fullName), after) ∧
      (nodeInfo name).run after = (.ok (.node owner.name owner.space owner.fullName), after) := by
  obtain ⟨handle, number, found, slot, valid, rfl⟩ := runs
  have ends := Middleware.initNode_of_valid valid nodeName space true
  rw [Bytes.beforeNul_of_hasNul_false cleanName, Bytes.beforeNul_of_hasNul_false cleanSpace] at ends
  intro owner
  rcases ends with ⟨_, made⟩ | ⟨fault, said, _⟩
  · have granted : (Request.initNode nodeName space (session.contextSlot handle)).outcome session.middleware =
        (.ok { owner, useArguments := true, context := number }, session.middleware) := by
      rw [slot]
      exact made
    obtain ⟨index, object, named, its, holds⟩ :=
      Session.namedNode?_nodeMade owned name found cleanName cleanSpace granted
    refine ⟨session.nodeMade name nodeName handle ⟨owner, true, number⟩ session.middleware, ?_, ?_⟩
    · rw [run_makeNode found, cleanName, cleanSpace, granted, if_neg Bool.false_ne_true, if_neg Bool.false_ne_true]
      exact run_describeNode_of_slot (its ▸ holds)
    · unfold nodeInfo findNode
      rw [run_find_bind named]
      exact run_describeNode_of_slot holds
  · exact absurd (said.trans good) fault.status_ne_ok

end Run

/-- What a client gets that makes nodes in a context: what the middleware would make, and no zero byte in a name. -/
structure Session.NamesNodes (session : Session) (context : String) (arguments : Arguments) : Prop where
  zeroInName : ∀ name nodeName space, nodeName.hasNul = true →
    (Run.makeNode name context nodeName space).run session =
      (.error (.raised (.zeroByte .nodeCreation (Bytes.ofString "failed to create node") .nodeInvalidName)), session)
  zeroInSpace : ∀ name nodeName space, nodeName.hasNul = false → space.hasNul = true →
    (Run.makeNode name context nodeName space).run session =
      (.error (.raised (.zeroByte .nodeCreation (Bytes.ofString "failed to create node") .nodeInvalidNamespace)),
        session)
  /-- A node is made with a valid name and namespace, and told when it is made and when it is asked for. -/
  made : ∀ name nodeName space, nodeName.hasNul = false → space.hasNul = false →
    let owner := Owner.requested arguments true nodeName space
    owner.name ∈ Kind.nodeName.grammar → owner.space ∈ Kind.nodeNamespace.grammar →
      ∃ after, (Run.makeNode name context nodeName space).run session =
          (.ok (.node owner.name owner.space owner.fullName), after) ∧
        (Run.nodeInfo name).run after = (.ok (.node owner.name owner.space owner.fullName), after)
  badName : ∀ name nodeName space, nodeName.hasNul = false → space.hasNul = false →
    (Owner.requested arguments true nodeName space).name ∉ Kind.nodeName.grammar →
      ∃ message, ((Run.makeNode name context nodeName space).run session).1 =
        .error (.raised (.failure .nodeCreation .nodeInvalidName message))
  badSpace : ∀ name nodeName space, nodeName.hasNul = false → space.hasNul = false →
    let owner := Owner.requested arguments true nodeName space
    owner.name ∈ Kind.nodeName.grammar → owner.space ∉ Kind.nodeNamespace.grammar →
      ∃ message, ((Run.makeNode name context nodeName space).run session).1 =
        .error (.raised (.failure .nodeCreation .nodeInvalidNamespace message))
  /-- Clients get the nodes that callers of the middleware get, where no name holds a zero byte. -/
  alike : ∀ (workspace : Workspace) node other, workspace.Hosts node other arguments → ∀ name nodeName space,
    (∃ answer, ((Run.makeNode name context nodeName space).run session).1 = .ok answer) ↔
      nodeName.hasNul = false ∧ space.hasNul = false ∧
        (workspace.nodeAnswers node other nodeName space true).1 = .status .ok

theorem Session.Runs.namesNodes {session : Session} {context : String} {arguments : Arguments}
    (runs : session.Runs context arguments) (reached : session.Reached) : session.NamesNodes context arguments := by
  have owned : ∃ nodes subscriptions, session.Owned [] nodes subscriptions := by
    obtain ⟨scene, there, rfl⟩ := reached
    exact ⟨_, _, there.owned⟩
  obtain ⟨nodes, subscriptions, owned⟩ := owned
  have zeroInName : ∀ name nodeName space, nodeName.hasNul = true →
      (Run.makeNode name context nodeName space).run session =
        (.error (.raised (.zeroByte .nodeCreation (Bytes.ofString "failed to create node") .nodeInvalidName)),
          session) := by
    intro name nodeName space zero
    obtain ⟨handle, _, found, _⟩ := runs
    rw [Run.run_makeNode found, if_pos zero]
  have zeroInSpace : ∀ name nodeName space, nodeName.hasNul = false → space.hasNul = true →
      (Run.makeNode name context nodeName space).run session =
        (.error (.raised (.zeroByte .nodeCreation (Bytes.ofString "failed to create node") .nodeInvalidNamespace)),
          session) := by
    intro name nodeName space clean zero
    obtain ⟨handle, _, found, _⟩ := runs
    rw [Run.run_makeNode found, clean, if_neg Bool.false_ne_true, if_pos zero]
  refine ⟨zeroInName, zeroInSpace, ?_, ?_, ?_, ?_⟩
  · intro name nodeName space cleanName cleanSpace owner named placed
    exact Run.run_makeNode_of_good owned runs name cleanName cleanSpace (Owner.status_ok_iff.2 ⟨named, placed⟩)
  · intro name nodeName space cleanName cleanSpace unnamed
    have said := Owner.status_nodeInvalidName_iff.2 unnamed
    obtain ⟨message, raised⟩ := Run.run_makeNode_of_bad runs name cleanName cleanSpace (by rw [said]; decide)
    exact ⟨message, said ▸ raised⟩
  · intro name nodeName space cleanName cleanSpace owner named unplaced
    have said : owner.status = _ := Owner.status_nodeInvalidNamespace_iff.2 ⟨named, unplaced⟩
    obtain ⟨message, raised⟩ := Run.run_makeNode_of_bad runs name cleanName cleanSpace (by rw [said]; decide)
    exact ⟨message, said ▸ raised⟩
  · intro workspace node other hosts name nodeName space
    rw [hosts.nodeAnswers_eq]
    constructor
    · rintro ⟨answer, told⟩
      cases cleanName : nodeName.hasNul with
      | true => exact nomatch (congrArg Prod.fst (zeroInName name nodeName space cleanName)).symm.trans told
      | false =>
          cases cleanSpace : space.hasNul with
          | true =>
              exact nomatch (congrArg Prod.fst (zeroInSpace name nodeName space cleanName cleanSpace)).symm.trans told
          | false =>
              refine ⟨rfl, rfl, ?_⟩
              rw [Bytes.beforeNul_of_hasNul_false cleanName, Bytes.beforeNul_of_hasNul_false cleanSpace]
              by_contra bad
              obtain ⟨message, raised⟩ := Run.run_makeNode_of_bad runs name cleanName cleanSpace
                (fun good => bad (congrArg Workspace.Answer.status good))
              exact nomatch raised.symm.trans told
    · rintro ⟨cleanName, cleanSpace, good⟩
      rw [Bytes.beforeNul_of_hasNul_false cleanName, Bytes.beforeNul_of_hasNul_false cleanSpace] at good
      obtain ⟨after, told, _⟩ := Run.run_makeNode_of_good owned runs name cleanName cleanSpace
        (Workspace.Answer.status.inj good)
      exact ⟨_, congrArg Prod.fst told⟩

/--
A node is made exactly if its name and its namespace, which arguments may replace, are in their grammars; it can be made
again from what it tells, and its full name is that of no other.  Clients get the same nodes.
-/
theorem nodes_named_by_grammar :
    (∀ (workspace : Workspace) node context arguments, workspace.Hosts node context arguments →
      workspace.NamesNodes node context arguments) ∧
    ∀ (session : Session) context arguments, session.Runs context arguments → session.Reached →
      session.NamesNodes context arguments :=
  ⟨fun _ _ _ _ hosts => hosts.namesNodes, fun _ _ _ runs reached => runs.namesNodes reached⟩

def replacing : List Bytes :=
  ["--ros-args", "-r", "__node:=talker", "-r", "__ns:=robot"].map Bytes.ofString

/-- What is no name is replaced by one where the arguments are used, but not where it holds a zero byte. -/
theorem nodes_named_by_grammar_renamed :
    let workspace := Workspace.empty.run [.initContext (some "context") (some (replacing.map some)) 5]
    let session := Session.empty.run [.makeContext "context" replacing]
    workspace.nodeAnswers "node" "context" [49] [] true =
        (.status .ok, .node true (some ⟨Bytes.ofString "talker", Bytes.ofString "/robot"⟩)) ∧
      (workspace.nodeAnswers "node" "context" [49] [] false).1 = .status .nodeInvalidName ∧
      (∃ after, (Run.makeNode "node" "context" [49] []).run session =
        (.ok (.node (Bytes.ofString "talker") (Bytes.ofString "/robot") (Bytes.ofString "/robot/talker")), after)) ∧
      ((Run.makeNode "node" "context" [49, 0] []).run session).2 = session := by
  intro workspace session
  have hosts : workspace.Hosts "node" "context" (workspace.middleware.transport.arguments 0) :=
    ⟨by decide +kernel, 0, by decide +kernel, by decide +kernel, rfl⟩
  have runs : session.Runs "context" (session.middleware.transport.arguments 0) :=
    ⟨0, 0, by decide +kernel, by decide +kernel, by decide +kernel, rfl⟩
  have native := nodes_named_by_grammar.1 _ _ _ _ hosts
  have client := nodes_named_by_grammar.2 _ _ _ runs (Session.reached_run _ rfl)
  have good := (native.made [49] [] true).2 (by decide +kernel)
  have owner : Owner.requested (session.middleware.transport.arguments 0) true [49] [] =
      ⟨Bytes.ofString "talker", Bytes.ofString "/robot"⟩ := by decide +kernel
  refine ⟨Prod.ext good ?_, (native.badName [49] [] false).2 (by decide +kernel), ?_, ?_⟩
  · rw [native.told, if_pos good]
    decide +kernel
  · obtain ⟨after, told, _⟩ := client.made "node" [49] [] rfl rfl (by decide +kernel) (by decide +kernel)
    rw [owner] at told
    exact ⟨after, told⟩
  · exact congrArg Prod.snd (client.zeroInName "node" [49, 0] [] rfl)

end PubSub
