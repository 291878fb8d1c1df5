import PubSub.Arguments
import PubSub.Proofs.Names.Grammar

/-!
Argument vectors as they are written: arguments of the application, and sections that hold rules.  Whatever is written in
this way is read in one way only.
-/

namespace PubSub

/-- A rule as it is written: two texts with `:=` between them, which does not occur in the first. -/
structure Mapping where
  source : Bytes
  target : Bytes
  someSource : source ≠ []
  someTarget : target ≠ []
  unmarked : ¬ [58, 61] <:+: source
  cleanSource : source.hasNul = false
  cleanTarget : target.hasNul = false

theorem splitRule_of_unmarked {source : Bytes} (unmarked : ¬ [58, 61] <:+: source) (target : Bytes) :
    splitRule (source ++ 58 :: 61 :: target) = some (source, target) := by
  induction source with
  | nil => rfl
  | cons byte rest ih =>
      rw [Name.pair_infix_cons, not_or] at unmarked
      cases rest with
      | nil =>
          rw [List.singleton_append, splitRule, if_neg (fun mark => absurd mark.2 (by decide)), splitRule,
            if_pos ⟨rfl, rfl⟩]
      | cons next others =>
          have apart : ¬(byte = 58 ∧ next = 61) := fun mark => unmarked.1 ⟨mark.1, congrArg some mark.2⟩
          rw [List.cons_append, List.cons_append, splitRule, if_neg apart, ← List.cons_append, ih unmarked.2]

theorem eq_of_splitRule {text source target : Bytes} (split : splitRule text = some (source, target)) :
    text = source ++ 58 :: 61 :: target ∧ ¬ [58, 61] <:+: source := by
  induction text generalizing source with
  | nil => cases split
  | cons byte rest ih =>
      cases rest with
      | nil => cases split
      | cons next others =>
          rw [splitRule] at split
          by_cases mark : byte = 58 ∧ next = 61
          · rw [if_pos mark] at split
            cases split
            obtain ⟨rfl, rfl⟩ := mark
            exact ⟨rfl, by simp⟩
          · rw [if_neg mark] at split
            cases later : splitRule (next :: others) with
            | none =>
                rw [later] at split
                cases split
            | some parts =>
                obtain ⟨before, after⟩ := parts
                rw [later] at split
                cases split
                obtain ⟨whole, unmarked⟩ := ih later
                refine ⟨congrArg (List.cons byte) whole, ?_⟩
                rw [Name.pair_infix_cons, not_or]
                refine ⟨?_, unmarked⟩
                rintro ⟨rfl, second⟩
                cases before with
                | nil => cases second
                | cons head tail =>
                    cases second
                    exact mark ⟨rfl, (List.cons.inj whole).1⟩

example : splitRule (Bytes.ofString "a:=b:=c") = some (Bytes.ofString "a", Bytes.ofString "b:=c") := by decide

namespace Mapping

variable {first second : Mapping}

def text (mapping : Mapping) : Bytes :=
  mapping.source ++ 58 :: 61 :: mapping.target

def rule (mapping : Mapping) : Rule :=
  .make mapping.source mapping.target

theorem splitRule_text (mapping : Mapping) :
    splitRule mapping.text = some (mapping.source, mapping.target) :=
  splitRule_of_unmarked mapping.unmarked mapping.target

theorem text_injective (same : first.text = second.text) : first = second := by
  have parts := first.splitRule_text.symm.trans ((congrArg splitRule same).trans second.splitRule_text)
  cases first
  cases second
  cases parts
  rfl

theorem clean (mapping : Mapping) : mapping.text.hasNul = false := by
  have source := mapping.cleanSource
  have target := mapping.cleanTarget
  unfold Bytes.hasNul text at *
  rw [List.any_append, List.any_cons, List.any_cons, source, target]
  rfl

theorem parse_text (mapping : Mapping) : Rule.parse mapping.text = .ok mapping.rule := by
  unfold Rule.parse
  rw [mapping.splitRule_text]
  exact if_neg (not_or.2 ⟨mapping.someSource, mapping.someTarget⟩)

theorem exists_of_parse {text : Bytes} {rule : Rule} (clean : text.hasNul = false)
    (parsed : Rule.parse text = .ok rule) : ∃ mapping : Mapping, text = mapping.text ∧ rule = mapping.rule := by
  unfold Rule.parse at parsed
  cases split : splitRule text with
  | none =>
      rw [split] at parsed
      cases parsed
  | some parts =>
      obtain ⟨source, target⟩ := parts
      rw [split] at parsed
      dsimp only at parsed
      split at parsed
      · cases parsed
      · rename_i both
        cases parsed
        obtain ⟨someSource, someTarget⟩ := not_or.1 both
        obtain ⟨rfl, unmarked⟩ := eq_of_splitRule split
        unfold Bytes.hasNul at clean
        rw [List.any_append, List.any_cons, List.any_cons, Bool.or_eq_false_iff, Bool.or_eq_false_iff,
          Bool.or_eq_false_iff] at clean
        exact ⟨⟨source, target, someSource, someTarget, unmarked, clean.1, clean.2.2.2⟩, rfl, rfl⟩

end Mapping

/-- What stands in a section: the flag that opens one, once more, or a rule after one of its flags. -/
inductive Entry where
  | again
  | rule (long : Bool) (mapping : Mapping)

namespace Entry

def text : Entry → List Bytes
  | again => [sectionFlag]
  | rule long mapping => [if long then longRuleFlag else ruleFlag, mapping.text]

def mappings : Entry → List Mapping
  | again => []
  | rule _ mapping => [mapping]

theorem clean (entry : Entry) : ∀ text ∈ entry.text, text.hasNul = false := by
  cases entry with
  | again => decide
  | rule long mapping =>
      rintro text (_ | ⟨_, _ | ⟨_, ⟨⟩⟩⟩)
      · cases long <;> decide
      · exact mapping.clean

def Stops (tail : List Bytes) : Prop :=
  ∀ head rest, tail = head :: rest → head = sectionEnd

theorem stops_nil : Stops [] :=
  nofun

theorem stops_sectionEnd (rest : List Bytes) : Stops (sectionEnd :: rest) := by
  intro head others same
  exact (List.cons.inj same).1.symm

/-- An entry does not begin as a section ends, so that it is told where the entries of a section end. -/
theorem head_text (entry : Entry) : ∃ head rest, entry.text = head :: rest ∧ head ≠ sectionEnd := by
  cases entry with
  | again => exact ⟨sectionFlag, [], rfl, by decide⟩
  | rule long mapping => cases long <;> exact ⟨_, [mapping.text], rfl, by decide⟩

theorem not_stops (entry : Entry) (rest : List Bytes) : ¬ Stops (entry.text ++ rest) := by
  obtain ⟨head, others, text, other⟩ := entry.head_text
  intro stops
  exact other (stops head (others ++ rest) (by rw [text, List.cons_append]))

theorem text_append_injective {first second : Entry} {rest others : List Bytes}
    (same : first.text ++ rest = second.text ++ others) : first = second ∧ rest = others := by
  cases first with
  | again =>
      cases second with
      | again => exact ⟨rfl, (List.cons.inj same).2⟩
      | rule long mapping =>
          have flags := (List.cons.inj same).1
          cases long <;> exact absurd flags (by decide)
  | rule long mapping =>
      cases second with
      | again =>
          have flags := (List.cons.inj same).1
          cases long <;> exact absurd flags (by decide)
      | rule also other =>
          obtain ⟨flags, left⟩ := List.cons.inj same
          obtain ⟨texts, rfl⟩ := List.cons.inj left
          cases Mapping.text_injective texts
          cases long <;> cases also
          · exact ⟨rfl, rfl⟩
          · exact absurd flags (by decide)
          · exact absurd flags (by decide)
          · exact ⟨rfl, rfl⟩

theorem texts_append_injective {first second : List Entry} {rest others : List Bytes} (stops : Stops rest)
    (also : Stops others) (same : first.flatMap text ++ rest = second.flatMap text ++ others) :
    first = second ∧ rest = others := by
  induction first generalizing second with
  | nil =>
      cases second with
      | nil => exact ⟨rfl, same⟩
      | cons entry more =>
          rw [List.flatMap_nil, List.nil_append, List.flatMap_cons, List.append_assoc] at same
          exact absurd (same ▸ stops) (entry.not_stops _)
  | cons entry entries ih =>
      rw [List.flatMap_cons, List.append_assoc] at same
      cases second with
      | nil =>
          rw [List.flatMap_nil, List.nil_append] at same
          exact absurd (same ▸ also) (entry.not_stops _)
      | cons other more =>
          rw [List.flatMap_cons, List.append_assoc] at same
          obtain ⟨rfl, left⟩ := text_append_injective same
          obtain ⟨rfl, right⟩ := ih left
          exact ⟨rfl, right⟩

end Entry

/-- An argument vector: arguments of the application, and sections, the last of which need not be closed. -/
inductive CommandLine where
  | done
  | own (argument : Bytes) (foreign : argument ≠ sectionFlag) (clean : argument.hasNul = false) (rest : CommandLine)
  | closed (entries : List Entry) (rest : CommandLine)
  | opened (entries : List Entry)

namespace CommandLine

def text : CommandLine → List Bytes
  | done => []
  | own argument _ _ rest => argument :: rest.text
  | closed entries rest => sectionFlag :: (entries.flatMap Entry.text ++ sectionEnd :: rest.text)
  | opened entries => sectionFlag :: entries.flatMap Entry.text

def mappings : CommandLine → List Mapping
  | done => []
  | own _ _ _ rest => rest.mappings
  | closed entries rest => entries.flatMap Entry.mappings ++ rest.mappings
  | opened entries => entries.flatMap Entry.mappings

theorem clean (line : CommandLine) : ∀ text ∈ line.text, text.hasNul = false := by
  have entriesClean : ∀ entries : List Entry, ∀ text ∈ entries.flatMap Entry.text, text.hasNul = false := by
    intro entries text member
    obtain ⟨entry, _, here⟩ := List.mem_flatMap.1 member
    exact entry.clean text here
  induction line with
  | done => exact nofun
  | own argument foreign clean rest ih => exact List.forall_mem_cons.2 ⟨clean, ih⟩
  | closed entries rest ih =>
      refine List.forall_mem_cons.2 ⟨by decide, List.forall_mem_append.2 ⟨entriesClean entries, ?_⟩⟩
      exact List.forall_mem_cons.2 ⟨by decide, ih⟩
  | opened entries => exact List.forall_mem_cons.2 ⟨by decide, entriesClean entries⟩

/-- No argument vector can be read in two ways. -/
theorem text_injective {first second : CommandLine} (same : first.text = second.text) : first = second := by
  induction first generalizing second with
  | done =>
      cases second with
      | done => rfl
      | _ => cases same
  | own argument foreign clean rest ih =>
      cases second with
      | done => cases same
      | own other _ _ more =>
          obtain ⟨rfl, left⟩ := List.cons.inj same
          rw [ih left]
      | _ => exact absurd (List.cons.inj same).1 foreign
  | closed entries rest ih =>
      cases second with
      | done => cases same
      | own other foreign _ _ => exact absurd (List.cons.inj same).1.symm foreign
      | closed others more =>
          obtain ⟨rfl, ends⟩ := Entry.texts_append_injective (Entry.stops_sectionEnd _) (Entry.stops_sectionEnd _)
            (List.cons.inj same).2
          rw [ih (List.cons.inj ends).2]
      | opened others =>
          have left := (List.cons.inj same).2.trans (List.append_nil _).symm
          exact nomatch (Entry.texts_append_injective (Entry.stops_sectionEnd _) Entry.stops_nil left).2
  | opened entries =>
      cases second with
      | done => cases same
      | own other foreign _ _ => exact absurd (List.cons.inj same).1.symm foreign
      | closed others more =>
          have left := (List.append_nil _).trans (List.cons.inj same).2
          exact nomatch (Entry.texts_append_injective Entry.stops_nil (Entry.stops_sectionEnd _) left).2
      | opened others =>
          have left := (List.append_nil _).trans ((List.cons.inj same).2.trans (List.append_nil _).symm)
          rw [(Entry.texts_append_injective Entry.stops_nil Entry.stops_nil left).1]

end CommandLine

end PubSub
