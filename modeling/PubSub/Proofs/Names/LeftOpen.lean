import PubSub.Proofs.Names.Completion
import PubSub.Proofs.Names.Pass

/-!
Keys left open.  The text of a topic that passes its check closes every brace, so that a pass runs on only where the
topic is a tilde alone and the name of the node ends in a key that it does not close.
-/

namespace PubSub.Name

def Owner.LeavesOpen (owner : Owner) : Prop :=
  ∃ front, ∃ key ∈ keys, owner.name = front ++ openBrace :: key ∧
    ∃ written, substitute owner none (owner.base ++ front) = .finished written

variable {owner : Owner} {text rest topic : Bytes}

theorem closeBrace_notMem_key {key : Bytes} (known : key ∈ keys) : closeBrace ∉ key := by
  revert key
  decide

theorem slash_notMem_key {key : Bytes} (known : key ∈ keys) : slash ∉ key := by
  revert key
  decide

theorem substitute_append_of_finished {front written : Bytes} (other : rest.head? ≠ some slash)
    (finished : substitute owner none front = .finished written) :
    substitute owner none (front ++ rest) = (substitute owner none rest).after written := by
  induction front using braces_induction generalizing written with
  | nil =>
      cases finished
      simp
  | other byte more literal ih =>
      rw [substitute_literal literal] at finished
      obtain ⟨later, replaced, rfl⟩ := after_eq_finished.1 finished
      rw [List.cons_append, substitute_literal literal, ih replaced, Substitution.after_after]
  | closed name more clean ih =>
      have follows : ((more ++ rest).head? = some slash) = (more.head? = some slash) := by
        cases more <;> simp [other]
      rw [substitute_closed clean] at finished
      rw [List.cons_append, List.append_assoc, List.cons_append, substitute_closed clean]
      simp only [follows]
      cases value : owner.value? name (more.head? = some slash) with
      | none => simp [value] at finished
      | some value =>
          simp only [value] at finished
          obtain ⟨later, replaced, rfl⟩ := after_eq_finished.1 finished
          simp only [ih replaced, Substitution.after_after]
  | left name clean =>
      by_cases known : name ∈ keys
      · rw [substitute_open_of_mem clean known] at finished
        cases finished
      · rw [substitute_open_of_notMem clean known] at finished
        cases finished

/-- A pass runs on if the text ends in a key that stands for something and is left open. -/
theorem Owner.runsOn_iff (owner : Owner) (text : Bytes) :
    owner.RunsOn text ↔ ∃ front, ∃ key ∈ keys, text = front ++ openBrace :: key ∧
      ∃ written, substitute owner none front = .finished written := by
  constructor
  · rintro ⟨key, endless⟩
    induction text using braces_induction with
    | nil => cases endless
    | other byte rest literal ih =>
        rw [substitute_literal literal, after_eq_endless] at endless
        obtain ⟨front, key, known, rfl, written, finished⟩ := ih endless
        refine ⟨byte :: front, key, known, rfl, byte :: written, ?_⟩
        rw [substitute_literal literal, finished]
        rfl
    | closed name rest clean ih =>
        by_cases here : name ∈ keys
        · rw [substitute_closed clean, Owner.value?_of_mem here, after_eq_endless] at endless
          obtain ⟨front, key, known, rfl, written, finished⟩ := ih endless
          refine ⟨openBrace :: (name ++ closeBrace :: front), key, known, by simp, ?_⟩
          rw [substitute_closed clean, Owner.value?_of_mem here, finished]
          exact ⟨_, rfl⟩
        · rw [substitute_closed_of_notMem clean here] at endless
          cases endless
    | left name clean =>
        by_cases known : name ∈ keys
        · exact ⟨[], name, known, rfl, [], rfl⟩
        · rw [substitute_open_of_notMem clean known] at endless
          cases endless
  · rintro ⟨front, key, known, rfl, written, finished⟩
    have other : (openBrace :: key).head? ≠ some slash := by simp [show openBrace ≠ slash by decide]
    refine ⟨key, ?_⟩
    rw [substitute_append_of_finished other finished,
      substitute_open_of_mem (closeBrace_notMem_key known) known]
    rfl

theorem closeBrace_mem_of_pieces {pieces : List Piece} (plain : ∀ piece ∈ pieces, piece.Plain) {front key : Bytes}
    (text : pieces.flatMap Piece.text = front ++ openBrace :: key) : closeBrace ∈ key := by
  induction pieces generalizing front with
  | nil => simp at text
  | cons piece rest ih =>
      obtain ⟨first, plainRest⟩ := List.forall_mem_cons.1 plain
      rw [List.flatMap_cons] at text
      rcases List.append_eq_append_iff.1 text with ⟨_, _, later⟩ | ⟨inside, written, opens⟩
      · exact ih plainRest later
      · cases inside with
        | nil => exact @ih plainRest [] opens.symm
        | cons byte inside =>
            obtain ⟨rfl, rfl⟩ := List.cons.inj opens
            refine List.mem_append_left _ ?_
            cases piece with
            | literal byte =>
                have member : openBrace ∈ (Piece.literal byte).text := by simp [written]
                exact absurd (List.mem_singleton.1 member).symm first.ne_openBrace
            | key name =>
                have last := congrArg List.getLast? written
                rw [Piece.text, List.getLast?_concat, List.getLast?_append_cons] at last
                have member := List.mem_of_getLast? last.symm
                exact (List.mem_cons.1 member).resolve_left (by decide)

/-- A key that is left open begins behind the last slash. -/
theorem split_behind_slash {first second front key : Bytes} (last : first.getLast? = some slash)
    (known : key ∈ keys) (text : first ++ second = front ++ openBrace :: key) :
    ∃ middle, front = first ++ middle ∧ second = middle ++ openBrace :: key := by
  rcases List.append_eq_append_iff.1 text with split | ⟨inside, rfl, opens⟩
  · exact split
  · cases inside with
    | nil => exact ⟨[], by simp, opens.symm⟩
    | cons byte inside =>
        rw [List.getLast?_append_cons] at last
        have member : slash ∈ openBrace :: key := opens ▸ List.mem_append_left _ (List.mem_of_getLast? last)
        exact absurd ((List.mem_cons.1 member).resolve_left (by decide)) (slash_notMem_key known)

theorem Owner.getLast?_base (owner : Owner) : owner.base.getLast? = some slash := by
  unfold base
  split
  · rfl
  · exact List.getLast?_concat

theorem Owner.leavesOpen_iff (owner : Owner) : owner.LeavesOpen ↔ owner.RunsOn (owner.base ++ owner.name) := by
  rw [runsOn_iff]
  constructor
  · rintro ⟨front, key, known, name, replaced⟩
    exact ⟨owner.base ++ front, key, known, by rw [name, List.append_assoc], replaced⟩
  · rintro ⟨front, key, known, text, replaced⟩
    obtain ⟨middle, rfl, name⟩ := split_behind_slash owner.getLast?_base known text
    exact ⟨middle, key, known, name, replaced⟩

theorem Template.not_runsOn (owner : Owner) (template : Template) :
    ¬ owner.RunsOn (template.pieces.flatMap Piece.text) := by
  by_cases known : Known template.pieces
  · exact Owner.not_runsOn_of_finished (substitute_of_known template.plain known)
  · obtain ⟨key, unknown⟩ := @substitute_of_not_known owner _ template.plain known
    exact Owner.not_runsOn_of_unknown unknown

/-- A topic that passes its check leaves a key open only if it is a tilde and the node's name does. -/
theorem Owner.runsOn_topic (owner : Owner) (accepted : (check .topic topic).verdict = .valid) :
    owner.RunsOn (owner.withoutTilde topic) ↔ topic = [tilde] ∧ owner.LeavesOpen := by
  have topical := checkTopic_valid_iff.1 accepted
  obtain ⟨template, rfl⟩ := topical.exists_template
  have closes := template.not_runsOn owner
  rw [withoutTilde_text]
  obtain ⟨tilded, pieces, plain⟩ := template
  cases tilded with
  | false =>
      refine iff_of_false closes ?_
      rintro ⟨alone, _⟩
      exact head?_text_ne_tilde plain (congrArg List.head? alone)
  | true =>
      rw [leavesOpen_iff]
      simp only [Template.text, Owner.lead, ↓reduceIte, List.singleton_append, List.cons.injEq, true_and] at *
      rcases topical.afterTilde _ rfl with nothing | slashed
      · rw [nothing]
        simp
      · obtain ⟨more, written⟩ := List.head?_eq_some_iff.1 slashed
        refine iff_of_false ?_ (by simp [written])
        rw [runsOn_iff]
        rintro ⟨front, key, known, text, _⟩
        obtain ⟨middle, _, behind⟩ := @split_behind_slash (owner.base ++ owner.name ++ [slash]) more front key
          List.getLast?_concat known (by rw [← text, written]; simp)
        have closed := @closeBrace_mem_of_pieces pieces plain (slash :: middle) key (by rw [written, behind]; rfl)
        exact closeBrace_notMem_key known closed

/-- An expansion never ends if its topic is let through, and the pass that comes next runs on. -/
theorem Owner.expand_eq_endless {key : Bytes} :
    owner.expand topic = .endless key ↔
      (checkTopic topic).verdict = .valid ∧ substitute owner none (owner.withoutTilde topic) = .endless key := by
  by_cases accepted : (checkTopic topic).verdict = .valid
  · rw [and_iff_right accepted]
    cases replaced : substitute owner none (owner.withoutTilde topic) with
    | finished text =>
        rw [expand_of_finished accepted replaced]
        split <;> exact iff_of_false nofun nofun
    | unknown other =>
        rw [expand_of_unknown accepted replaced]
        exact iff_of_false nofun nofun
    | endless other =>
        rw [expand_of_endless accepted replaced, Expansion.endless.injEq, Substitution.endless.injEq]
  · rw [expand_of_refused accepted]
    exact iff_of_false nofun (fun both => accepted both.1)

theorem Owner.expand_endless_iff (owner : Owner) (topic : Bytes) :
    (∃ key, owner.expand topic = .endless key) ↔ topic = [tilde] ∧ owner.LeavesOpen := by
  have alone : (check .topic [tilde]).verdict = .valid := by decide
  simp only [expand_eq_endless, exists_and_left]
  constructor
  · rintro ⟨accepted, runsOn⟩
    exact (owner.runsOn_topic accepted).1 runsOn
  · rintro ⟨rfl, leavesOpen⟩
    exact ⟨alone, (owner.runsOn_topic alone).2 ⟨rfl, leavesOpen⟩⟩

end PubSub.Name

namespace PubSub.Workspace

open Name (Owner tilde)

/--
An expansion comes to an end, in turns that go forward, unless the topic is a tilde and the name of the node ends in
a key that it leaves open.  Then the pass goes on after any number of turns, and the call never answers.
-/
theorem expansion_ends_unless_open (workspace : Workspace) (owner : Owner) {topic : Bytes}
    (free : topic.hasNul = false) (freeName : owner.name.hasNul = false) (freeSpace : owner.space.hasNul = false) :
    ((workspace.step (.expand (some topic) (some owner.name) (some owner.space) true)).1 = .endless ↔
        topic = [tilde] ∧ owner.LeavesOpen) ∧
      ((Name.check .topic topic).verdict = .valid → ¬ (topic = [tilde] ∧ owner.LeavesOpen) →
        owner.Ends (owner.withoutTilde topic)) ∧
      (topic = [tilde] ∧ owner.LeavesOpen →
        ∀ count, ∃ pass, owner.turns (owner.withoutTilde topic) count .start = .goesOn pass) := by
  refine ⟨?_, fun accepted closed => ?_, fun leavesOpen count => ?_⟩
  · rw [workspace.answer_expand_owner owner free freeName freeSpace, ← owner.expand_endless_iff topic]
    cases owner.expand topic <;> simp
  · exact Owner.ends_of_not_runsOn (fun runsOn => closed ((owner.runsOn_topic accepted).1 runsOn))
  · have accepted : (Name.check .topic topic).verdict = .valid := by
      rw [leavesOpen.1]
      decide
    exact Owner.goesOn_of_runsOn ((owner.runsOn_topic accepted).2 leavesOpen) count

/-- A name that opens a brace and never closes it, under a topic that goes on. -/
theorem expansion_ends_unless_open_refused :
    (Bytes.ofString "~/t").hasNul = false ∧ (Bytes.ofString "\x7bnode").hasNul = false ∧
      (Bytes.ofString "/x").hasNul = false ∧
      Owner.Ends { name := Bytes.ofString "\x7bnode", space := Bytes.ofString "/x" } (Bytes.ofString "/x/\x7bnode/t") := by
  have free : (Bytes.ofString "~/t").hasNul = false := by decide
  have freeName : (Bytes.ofString "\x7bnode").hasNul = false := by decide
  have freeSpace : (Bytes.ofString "/x").hasNul = false := by decide
  have ends := (expansion_ends_unless_open .empty
    { name := Bytes.ofString "\x7bnode", space := Bytes.ofString "/x" } free freeName freeSpace).2.1
  refine ⟨free, freeName, freeSpace, ends (by decide) ?_⟩
  rintro ⟨alone, _⟩
  exact absurd alone (by decide)

/-- A node whose name is a key left open, in a namespace full of keys. -/
def crowded : Owner where
  name := Bytes.ofString "\x7bnode"
  space := Bytes.ofString "/x" ++ (List.replicate 16 (Bytes.ofString "\x7bns\x7d")).flatten

/-- Against that node, the expansion of a tilde never ends. -/
theorem expansion_never_ends :
    Bytes.hasNul [tilde] = false ∧ crowded.name.hasNul = false ∧ crowded.space.hasNul = false ∧
      (Workspace.empty.step (.expand (some [tilde]) (some crowded.name) (some crowded.space) true)).1 = .endless ∧
      ∀ count, ∃ pass, crowded.turns (crowded.withoutTilde [tilde]) count .start = .goesOn pass := by
  have runsOn : crowded.RunsOn (crowded.withoutTilde [tilde]) := ⟨Bytes.ofString "node", by decide +kernel⟩
  exact ⟨by decide, by decide, by decide, by decide +kernel, Owner.goesOn_of_runsOn runsOn⟩

end PubSub.Workspace
