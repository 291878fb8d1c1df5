import PubSub.Proofs.Calls.Queues
import PubSub.Proofs.Names.Acceptance

/-!
Remapping as a finite map.  Rules are a map from full names to targets, in which the first rule of a source counts; a
topic is expanded, looked up once, and what it is mapped to is expanded in its turn.
-/

namespace PubSub.Name

variable {owner : Owner} {rules others : List Remap} {topic full : Bytes}

/-- What a topic expands to, if it does. -/
def Owner.expansion? (owner : Owner) (topic : Bytes) : Option Bytes :=
  match owner.expand topic with
  | .expanded full => some full
  | .rejected _ => none
  | .endless _ => none

/-- The full names that rules are for, each with its target; a rule whose source does not expand is for none. -/
def Owner.remapping (owner : Owner) (rules : List Remap) : List (Bytes × Bytes) :=
  rules.filterMap (fun rule => (owner.expansion? rule.source).map (fun full => (full, rule.target)))

/-- The full name of a topic after remapping, if it has one. -/
def Owner.renamed? (owner : Owner) (rules : List Remap) (topic : Bytes) : Option Bytes :=
  (owner.expansion? topic).bind (fun full =>
    match (owner.remapping rules).lookup full with
    | some target => owner.expansion? target
    | none => some full)

theorem Owner.toOption_expandTopic (owner : Owner) (topic : Bytes) :
    (owner.expandTopic topic).toOption = owner.expansion? topic := by
  unfold expandTopic expansion?
  cases owner.expand topic <;> rfl

theorem Owner.applies_iff {rule : Remap} :
    rule.applies owner full = true ↔ owner.expansion? rule.source = some full := by
  unfold Remap.applies
  rw [← owner.toOption_expandTopic]
  cases owner.expandTopic rule.source <;> simp [Except.toOption]

theorem lookup_cons_of_ne {key other : Bytes} (apart : key ≠ other) (value : Bytes) (rest : List (Bytes × Bytes)) :
    ((other, value) :: rest).lookup key = rest.lookup key := by
  rw [List.lookup_cons, beq_false_of_ne apart]

/-- The rule that applies first is the one that is found in the map. -/
theorem Owner.lookup_remapping (owner : Owner) (rules : List Remap) (full : Bytes) :
    (owner.remapping rules).lookup full =
      (rules.find? (fun rule => rule.applies owner full)).map Remap.target := by
  unfold remapping
  induction rules with
  | nil => rfl
  | cons rule rest ih =>
      rw [List.filterMap_cons, List.find?_cons]
      cases applies : rule.applies owner full with
      | true =>
          rw [applies_iff.1 applies]
          simp
      | false =>
          have other : owner.expansion? rule.source ≠ some full :=
            fun same => nomatch applies.symm.trans (applies_iff.2 same)
          rw [← ih]
          cases expands : owner.expansion? rule.source with
          | none => rfl
          | some source =>
              exact lookup_cons_of_ne (fun same => other (expands.trans (congrArg some same.symm))) rule.target _

theorem Owner.toOption_resolve (owner : Owner) (rules : List Remap) (topic : Bytes) :
    (owner.resolve rules topic).result.toOption = owner.renamed? rules topic := by
  unfold resolve renamed?
  rw [← owner.toOption_expandTopic]
  cases owner.expandTopic topic with
  | error fault => rfl
  | ok full =>
      dsimp only [Except.toOption, Option.bind_some]
      rw [owner.lookup_remapping]
      cases rules.find? (fun rule => rule.applies owner full) with
      | none => rfl
      | some rule => exact owner.toOption_expandTopic rule.target

theorem Owner.renamed?_of_first {front back : List Remap} {rule : Remap} (expands : owner.expansion? topic = some full)
    (same : owner.expansion? rule.source = some full)
    (others : ∀ earlier ∈ front, owner.expansion? earlier.source ≠ some full) :
    owner.renamed? (front ++ rule :: back) topic = owner.expansion? rule.target := by
  have found : (front ++ rule :: back).find? (fun rule => rule.applies owner full) = some rule := by
    refine List.find?_eq_some_iff_append.2 ⟨applies_iff.2 same, front, back, rfl, fun earlier member => ?_⟩
    rw [Bool.not_eq_true', ← Bool.not_eq_true, applies_iff]
    exact others earlier member
  unfold renamed?
  rw [expands, Option.bind_some, owner.lookup_remapping, found]
  rfl

theorem Owner.renamed?_of_none (expands : owner.expansion? topic = some full)
    (others : ∀ rule ∈ rules, owner.expansion? rule.source ≠ some full) : owner.renamed? rules topic = some full := by
  have absent : rules.find? (fun rule => rule.applies owner full) = none :=
    List.find?_eq_none.2 (fun rule member applies => others rule member (applies_iff.1 applies))
  unfold renamed?
  rw [expands, Option.bind_some, owner.lookup_remapping, absent]
  rfl

theorem Owner.renamed?_congr {first second : Bytes} (same : owner.expansion? first = owner.expansion? second) :
    owner.renamed? rules first = owner.renamed? rules second := by
  unfold renamed?
  rw [same]

/-- Rules that say the same: some are idle, some come too late, and some change places with others. -/
inductive Owner.Rearranged (owner : Owner) : List Remap → List Remap → Prop
  | refl (rules : List Remap) : Rearranged owner rules rules
  | symm {rules others : List Remap} (same : Rearranged owner rules others) : Rearranged owner others rules
  | trans {first second third : List Remap} (same : Rearranged owner first second)
      (also : Rearranged owner second third) : Rearranged owner first third
  /-- A rule whose source does not expand is deleted. -/
  | idle (front : List Remap) {rule : Remap} (back : List Remap) (idle : owner.expansion? rule.source = none) :
      Rearranged owner (front ++ rule :: back) (front ++ back)
  /-- A rule is deleted that comes after one with the same expanded source. -/
  | late {front : List Remap} {rule earlier : Remap} (back : List Remap) (member : earlier ∈ front)
      (same : owner.expansion? earlier.source = owner.expansion? rule.source) :
      Rearranged owner (front ++ rule :: back) (front ++ back)
  /-- Rules with distinct expanded sources change places. -/
  | permuted (front : List Remap) {middle changed : List Remap} (back : List Remap) (permutes : middle.Perm changed)
      (distinct : ((owner.remapping middle).map Prod.fst).Nodup) :
      Rearranged owner (front ++ middle ++ back) (front ++ changed ++ back)

theorem lookup_eq_some_iff_mem {entries : List (Bytes × Bytes)} (distinct : (entries.map Prod.fst).Nodup)
    {key value : Bytes} : entries.lookup key = some value ↔ (key, value) ∈ entries := by
  induction entries with
  | nil => exact iff_of_false nofun nofun
  | cons entry rest ih =>
      obtain ⟨other, held⟩ := entry
      rw [List.map_cons, List.nodup_cons] at distinct
      by_cases same : key = other
      · subst same
        have absent : (key, value) ∉ rest := fun member => distinct.1 (List.mem_map.2 ⟨(key, value), member, rfl⟩)
        simp [absent, eq_comm]
      · have apart : (key, value) ≠ (other, held) := fun equal => same (congrArg Prod.fst equal)
        rw [List.mem_cons, or_iff_right apart, ← ih distinct.2, lookup_cons_of_ne same]

theorem lookup_perm {entries changed : List (Bytes × Bytes)} (permutes : entries.Perm changed)
    (distinct : (entries.map Prod.fst).Nodup) (key : Bytes) : entries.lookup key = changed.lookup key := by
  have also : (changed.map Prod.fst).Nodup := (permutes.map Prod.fst).nodup_iff.1 distinct
  apply Option.ext
  intro value
  rw [lookup_eq_some_iff_mem distinct, lookup_eq_some_iff_mem also]
  exact permutes.mem_iff

theorem Owner.remapping_append (owner : Owner) (front back : List Remap) :
    owner.remapping (front ++ back) = owner.remapping front ++ owner.remapping back :=
  List.filterMap_append

theorem Owner.remapping_cons_of_idle {rule : Remap} (idle : owner.expansion? rule.source = none) (back : List Remap) :
    owner.remapping (rule :: back) = owner.remapping back :=
  List.filterMap_cons_none (by rw [idle, Option.map_none])

/-- Rearranged rules are the same map. -/
theorem Owner.Rearranged.lookup_eq (same : owner.Rearranged rules others) (full : Bytes) :
    (owner.remapping rules).lookup full = (owner.remapping others).lookup full := by
  induction same with
  | refl rules => rfl
  | symm same ih => exact ih.symm
  | trans same also ih next => exact ih.trans next
  | idle front back idle =>
      rw [owner.remapping_append, owner.remapping_append, remapping_cons_of_idle idle]
  | @late front rule earlier back member same =>
      cases expands : owner.expansion? rule.source with
      | none => rw [owner.remapping_append, owner.remapping_append, remapping_cons_of_idle expands]
      | some source =>
          have cons : owner.remapping (rule :: back) = (source, rule.target) :: owner.remapping back :=
            List.filterMap_cons_some (by rw [expands, Option.map_some])
          rw [owner.remapping_append, owner.remapping_append, List.lookup_append, List.lookup_append, cons]
          by_cases mine : full = source
          · -- The earlier rule is found already, whatever stands behind it.
            have found : ((owner.remapping front).lookup full).isSome = true := by
              refine List.lookup_isSome_iff.2 ⟨(source, earlier.target), ?_, by simp [mine]⟩
              exact List.mem_filterMap.2 ⟨earlier, member, by rw [same, expands, Option.map_some]⟩
            rw [Option.or_of_isSome found, Option.or_of_isSome found]
          · rw [lookup_cons_of_ne mine]
  | @permuted front middle changed back permutes distinct =>
      have moves : (owner.remapping middle).Perm (owner.remapping changed) := permutes.filterMap _
      rw [owner.remapping_append, owner.remapping_append, owner.remapping_append, owner.remapping_append,
        List.lookup_append, List.lookup_append, List.lookup_append, List.lookup_append,
        lookup_perm moves distinct]

theorem Owner.Rearranged.renamed?_eq (same : owner.Rearranged rules others) (topic : Bytes) :
    owner.renamed? rules topic = owner.renamed? others topic := by
  unfold Owner.renamed?
  congr 1
  funext full
  rw [same.lookup_eq full]

theorem Owner.renamed?_swap {first second here there : Bytes} (expands : owner.expansion? first = some here)
    (also : owner.expansion? second = some there) :
    owner.renamed? [⟨first, second⟩, ⟨second, first⟩] first = some there ∧
      owner.renamed? [⟨first, second⟩, ⟨second, first⟩] second = some here := by
  have map : owner.remapping [⟨first, second⟩, ⟨second, first⟩] = [(here, second), (there, first)] := by
    unfold remapping
    simp only [List.filterMap_cons, expands, also, Option.map_some, List.filterMap_nil]
  unfold renamed?
  rw [map, expands, also, Option.bind_some, Option.bind_some]
  constructor
  · rw [List.lookup_cons_self]
    exact also
  · by_cases same : there = here
    · rw [same, List.lookup_cons_self]
      exact also.trans (congrArg some same)
    · rw [lookup_cons_of_ne same, List.lookup_cons_self]
      exact expands

theorem Owner.renamed?_full (renamed : owner.renamed? rules topic = some full) : full ∈ Kind.fullTopic.grammar := by
  rw [← owner.toOption_resolve] at renamed
  cases resolved : (owner.resolve rules topic).result with
  | error fault =>
      rw [resolved] at renamed
      cases renamed
  | ok reached =>
      rw [resolved] at renamed
      cases renamed
      exact (check_valid_iff .fullTopic full).1 (Owner.resolve_full resolved)

end PubSub.Name
