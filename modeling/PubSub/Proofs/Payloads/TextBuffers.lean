import Mathlib.Logic.Function.Basic
import PubSub.Proofs.Payloads.Copies

/-!
Text buffers as optional byte strings.  A buffer is zeroed, or its block holds a text with a zero byte behind it; what a
block held before is out of sight, however long it was.  Operations on named buffers are answered as by a map from names
to optional byte strings, and leave buffers that amount to what the map says.
-/

namespace PubSub.TextBuffer

/-- What a buffer amounts to: nothing where it has no block, or else the text at the front of its block. -/
def Represents (buffer : TextBuffer) : Option Bytes → Prop
  | none => buffer.block = none ∧ buffer.size = 0 ∧ buffer.capacity = 0
  | some text => ∃ block, buffer.block = some block ∧ buffer.capacity = block.length ∧ buffer.size < buffer.capacity ∧
      block[buffer.size]? = some 0 ∧ block.take buffer.size = text

abbrev Texts := String → Option Bytes

namespace Texts

def blank : Texts := fun _ => none

/-- What an operation does to optional byte strings, and whether it is granted. -/
def step (texts : Texts) : Action → Bool × Texts
  | .init (some name) => (true, Function.update texts name (some []))
  | .release (some name) => (true, Function.update texts name none)
  | .assign (some name) (some value) =>
      (true, Function.update texts name (some (value.takeWhile (fun byte => byte != 0))))
  | .assignFirst (some name) (some value) count => (true, Function.update texts name (some (value.take count)))
  | .assignFirst (some name) none 0 => (true, Function.update texts name (some []))
  | .copy (some name) (some source) =>
      (true, if source = name then texts else Function.update texts name (some ((texts source).getD [])))
  | _ => (false, texts)

/-- Whether an operation may be asked for: a new block only where there is none, and no byte beyond those given. -/
def admits (texts : Texts) : Action → Bool
  | .init (some name) => (texts name).isNone
  | .assignFirst _ (some value) count => decide (count ≤ value.length)
  | _ => true

def admitsAll : Texts → List Action → Bool
  | _, [] => true
  | texts, action :: rest => texts.admits action && admitsAll (texts.step action).2 rest

def run (texts : Texts) (actions : List Action) : Texts :=
  actions.foldl (fun current action => (current.step action).2) texts

theorem admitsAll_append {texts : Texts} {first second : List Action} :
    texts.admitsAll (first ++ second) = true ↔
      texts.admitsAll first = true ∧ (texts.run first).admitsAll second = true := by
  induction first generalizing texts with
  | nil => exact (and_iff_right rfl).symm
  | cons action rest ih =>
      rw [List.cons_append, admitsAll, admitsAll, Bool.and_eq_true, Bool.and_eq_true, ih, and_assoc]
      rfl

end Texts

namespace Shelf

def run (shelf : Shelf) (actions : List Action) : Shelf :=
  actions.foldl (fun current action => (current.step action).2) shelf

end Shelf

/-- Something is missing that an operation needs: its buffer, the text of an assignment or the source of a copy. -/
def Action.Lacks (action : Action) : Prop :=
  action.target = none ∨
    match action with
    | .assign _ value => value = none
    | .assignFirst _ value count => value = none ∧ 0 < count
    | .copy _ source => source = none
    | _ => False

variable {buffer source : TextBuffer} {text : Bytes} {texts : Texts} {shelf : Shelf} {action : Action}

theorem represents_zeroed : zeroed.Represents none :=
  ⟨rfl, rfl, rfl⟩

theorem represents_fresh : fresh.Represents (some []) :=
  ⟨[0], rfl, rfl, by decide, rfl, rfl⟩

/-- Whatever a buffer held, it amounts to the text that was stored last. -/
theorem represents_store (buffer : TextBuffer) (text : Bytes) : (buffer.store text).Represents (some text) := by
  unfold store
  cases buffer.block with
  | none => exact ⟨text ++ [0], rfl, rfl, by simp [capacity], by simp, by simp⟩
  | some block => exact ⟨text ++ 0 :: block.drop (text.length + 1), rfl, rfl, by simp [capacity], by simp, by simp⟩

theorem capacity_le_store (buffer : TextBuffer) (text : Bytes) : buffer.capacity ≤ (buffer.store text).capacity := by
  unfold store capacity
  cases buffer.block with
  | none => exact Nat.zero_le _
  | some block =>
      simp only [List.length_append, List.length_cons, List.length_drop]
      omega

theorem Represents.capacity_eq_zero {value : Option Bytes} (represents : buffer.Represents value)
    (absent : value.isNone = true) : buffer.capacity = 0 := by
  cases value with
  | none => exact represents.2.2
  | some text => cases absent

theorem Represents.whole {value : Option Bytes} (represents : buffer.Represents value) :
    (Layout.text buffer).Whole := by
  cases value with
  | none => exact Nat.le_of_eq (represents.2.1.trans represents.2.2.symm)
  | some text =>
      obtain ⟨_, _, _, room, _, _⟩ := represents
      exact Nat.le_of_lt room

theorem Represents.contents {value : Option Bytes} (represents : buffer.Represents value) :
    buffer.contents = value.getD [] := by
  unfold TextBuffer.contents data?
  cases value with
  | none => rw [represents.1, Option.map_none]
  | some text =>
      obtain ⟨_, block, _, _, _, reads⟩ := represents
      rw [block, Option.map_some, reads]

theorem Represents.copyFrom {value : Option Bytes} (represents : source.Represents value) (buffer : TextBuffer) :
    buffer.copyFrom source = (true, buffer.store (value.getD [])) := by
  rw [copyFrom_eq represents.whole, represents.contents]

theorem assignFirst_of_le {count : Nat} (within : count ≤ text.length) (buffer : TextBuffer) :
    buffer.assignFirst (some text) count = (true, buffer.store (text.take count)) := by
  unfold assignFirst
  dsimp only
  rw [Nat.sub_eq_zero_of_le within, List.replicate_zero, List.append_nil]

/-- Every buffer amounts to what a map says. -/
def Shelf.Refines (shelf : Shelf) (texts : Texts) : Prop :=
  ∀ name, (shelf.buffer name).Represents (texts name)

theorem Shelf.refines_empty : Shelf.Refines Table.empty Texts.blank :=
  fun _ => represents_zeroed

theorem Shelf.buffer_set (shelf : Shelf) (name other : String) (buffer : TextBuffer) :
    Shelf.buffer (shelf.set name buffer) other = if other = name then buffer else shelf.buffer other := by
  unfold Shelf.buffer
  rw [Table.get?_set]
  split <;> rfl

theorem Shelf.buffer_set_self (shelf : Shelf) (name other : String) :
    Shelf.buffer (shelf.set name (shelf.buffer name)) other = shelf.buffer other := by
  rw [buffer_set]
  split
  · rename_i same
    rw [same]
  · rfl

inductive Becomes (buffer : TextBuffer) : TextBuffer → Option Bytes → Prop
  | made (bare : buffer.capacity = 0) : Becomes buffer fresh (some [])
  | released : Becomes buffer zeroed none
  | stored (text : Bytes) : Becomes buffer (buffer.store text) (some text)

theorem Becomes.represents {after : TextBuffer} {value : Option Bytes} (becomes : buffer.Becomes after value) :
    after.Represents value := by
  cases becomes with
  | made bare => exact represents_fresh
  | released => exact represents_zeroed
  | stored text => exact buffer.represents_store text

theorem Becomes.capacity_le {after : TextBuffer} (becomes : buffer.Becomes after (some text)) :
    buffer.capacity ≤ after.capacity := by
  cases becomes with
  | made bare => exact bare ▸ Nat.zero_le _
  | stored text => exact buffer.capacity_le_store text

inductive Comes (shelf : Shelf) (texts : Texts) (action : Action) : Prop
  | refused (lacks : action.Lacks) (answer : (shelf.step action).1 = false)
      (same : ∀ name, Shelf.buffer (shelf.step action).2 name = shelf.buffer name)
      (texts : texts.step action = (false, texts))
  | copiedOntoItself (complete : ¬ action.Lacks) (answer : (shelf.step action).1 = true)
      (same : ∀ name, Shelf.buffer (shelf.step action).2 name = shelf.buffer name)
      (texts : texts.step action = (true, texts))
  | changed {name : String} {after : TextBuffer} {value : Option Bytes} (complete : ¬ action.Lacks)
      (target : action.target = some name) (other : action ≠ .copy (some name) (some name))
      (ends : shelf.step action = (true, shelf.set name after))
      (texts : texts.step action = (true, Function.update texts name value))
      (becomes : (shelf.buffer name).Becomes after value) (given : value = none → action = .release (some name))

theorem Shelf.Refines.comes (refines : shelf.Refines texts) (admitted : texts.admits action = true) :
    Comes shelf texts action := by
  have unset : ∀ name other, Shelf.buffer (shelf.set name (shelf.buffer name)) other = shelf.buffer other :=
    fun name other => shelf.buffer_set_self name other
  cases action with
  | init target =>
      cases target with
      | none => exact .refused (.inl rfl) rfl (fun _ => rfl) rfl
      | some name =>
          have bare := (refines name).capacity_eq_zero admitted
          exact .changed (by simp [Action.Lacks, Action.target]) rfl nofun rfl rfl (.made bare) nofun
  | release target =>
      cases target with
      | none => exact .refused (.inl rfl) rfl (fun _ => rfl) rfl
      | some name => exact .changed (by simp [Action.Lacks, Action.target]) rfl nofun rfl rfl .released (fun _ => rfl)
  | assign target value =>
      rcases target with _ | name
      · exact .refused (.inl rfl) rfl (fun _ => rfl) rfl
      · rcases value with _ | text
        · exact .refused (.inr rfl) rfl (unset name) rfl
        · exact .changed (by simp [Action.Lacks, Action.target]) rfl nofun rfl rfl (.stored _) nofun
  | assignFirst target value count =>
      rcases target with _ | name
      · exact .refused (.inl rfl) rfl (fun _ => rfl) rfl
      · rcases value with _ | text
        · rcases count with _ | count
          · exact .changed (by simp [Action.Lacks, Action.target]) rfl nofun rfl rfl (.stored []) nofun
          · exact .refused (.inr ⟨rfl, Nat.succ_pos count⟩) rfl (unset name) rfl
        · have within := of_decide_eq_true admitted
          have stores := assignFirst_of_le within (shelf.buffer name)
          refine .changed (by simp [Action.Lacks, Action.target]) rfl nofun ?_ rfl (.stored (text.take count)) nofun
          unfold Shelf.step Action.target
          dsimp only
          rw [stores]
  | copy target source =>
      rcases target with _ | name
      · exact .refused (.inl rfl) rfl (fun _ => rfl) rfl
      · rcases source with _ | source
        · exact .refused (.inr rfl) rfl (unset name) rfl
        · by_cases same : source = name
          · subst same
            have ends : shelf.step (.copy (some source) (some source)) =
                (true, shelf.set source (shelf.buffer source)) := by
              unfold Shelf.step Action.target
              dsimp only
              rw [if_pos rfl]
            have whole : ¬Action.Lacks (.copy (some source) (some source)) := by simp [Action.Lacks, Action.target]
            refine .copiedOntoItself whole (congrArg Prod.fst ends) (fun other => ?_) ?_
            · rw [ends]
              exact unset source other
            · exact congrArg (Prod.mk true) (if_pos rfl)
          · have stores := (refines source).copyFrom (shelf.buffer name)
            have whole : ¬Action.Lacks (.copy (some name) (some source)) := by simp [Action.Lacks, Action.target]
            refine .changed whole rfl ?_ ?_ ?_ (.stored ((texts source).getD [])) nofun
            · rintro ⟨⟩
              exact same rfl
            · unfold Shelf.step Action.target
              dsimp only
              rw [if_neg same, stores]
            · exact congrArg (Prod.mk true) (if_neg same)

/-- What an operation does to named buffers is what it does to the texts that these amount to. -/
structure StepsAs (shelf : Shelf) (texts : Texts) (action : Action) : Prop where
  refines : shelf.Refines texts
  granted : (shelf.step action).1 = (texts.step action).1
  later : Shelf.Refines (shelf.step action).2 (texts.step action).2
  /-- What is refused lacks something, and changes nothing. -/
  refused : (shelf.step action).1 = false ↔ action.Lacks
  untouched : (shelf.step action).1 = false → ∀ name, Shelf.buffer (shelf.step action).2 name = shelf.buffer name
  others : ∀ name, action.target ≠ some name → Shelf.buffer (shelf.step action).2 name = shelf.buffer name
  ontoItself : ∀ name, action = .copy (some name) (some name) →
    Shelf.buffer (shelf.step action).2 name = shelf.buffer name
  capacity : ∀ name, action ≠ .release (some name) →
    (shelf.buffer name).capacity ≤ (Shelf.buffer (shelf.step action).2 name).capacity

theorem Comes.stepsAs (comes : Comes shelf texts action) (refines : shelf.Refines texts) :
    StepsAs shelf texts action := by
  cases comes with
  | refused lacks answer same unmoved =>
      refine ⟨refines, answer.trans (congrArg Prod.fst unmoved).symm, fun name => ?_, iff_of_true answer lacks,
        fun _ => same, fun name _ => same name, fun name _ => same name, fun name _ => ?_⟩
      · rw [same, unmoved]
        exact refines name
      · rw [same]
  | copiedOntoItself complete answer same unmoved =>
      refine ⟨refines, answer.trans (congrArg Prod.fst unmoved).symm, fun name => ?_,
        iff_of_false (by rw [answer]; exact nofun) complete, fun _ => same, fun name _ => same name,
        fun name _ => same name, fun name _ => ?_⟩
      · rw [same, unmoved]
        exact refines name
      · rw [same]
  | @changed name after value complete target other ends moved becomes given =>
      have here : Shelf.buffer (shelf.step action).2 name = after := by
        rw [ends, Shelf.buffer_set, if_pos rfl]
      have elsewhere : ∀ other, other ≠ name → Shelf.buffer (shelf.step action).2 other = shelf.buffer other := by
        intro other apart
        rw [ends, Shelf.buffer_set, if_neg apart]
      have answer : (shelf.step action).1 = true := congrArg Prod.fst ends
      refine ⟨refines, answer.trans (congrArg Prod.fst moved).symm, fun other => ?_,
        iff_of_false (by rw [answer]; exact nofun) complete, fun failed => (nomatch answer.symm.trans failed),
        fun other apart => elsewhere other (fun same => apart (same ▸ target)), ?_, fun other kept => ?_⟩
      · rw [moved]
        dsimp only
        by_cases same : other = name
        · rw [same, here, Function.update_self]
          exact becomes.represents
        · rw [elsewhere other same, Function.update_of_ne same]
          exact refines other
      · rintro other rfl
        cases target
        exact absurd rfl other
      · by_cases same : other = name
        · subst same
          rw [here]
          cases value with
          | none => exact absurd (given rfl) kept
          | some text => exact becomes.capacity_le
        · rw [elsewhere other same]

theorem Shelf.Refines.run (refines : shelf.Refines texts) {actions : List Action}
    (admitted : texts.admitsAll actions = true) : Shelf.Refines (shelf.run actions) (texts.run actions) := by
  induction actions generalizing shelf texts with
  | nil => exact refines
  | cons action rest ih =>
      rw [Texts.admitsAll, Bool.and_eq_true] at admitted
      exact ih ((refines.comes admitted.1).stepsAs refines).later admitted.2

/--
From zeroed buffers on, whatever is asked for in turn, each operation does to named buffers what it does to optional
byte strings, and is refused exactly where something is missing, at no loss of capacity unless the buffer is given up.
-/
theorem refines_texts (actions : List Action) (action : Action)
    (admitted : Texts.blank.admitsAll (actions ++ [action]) = true) :
    StepsAs (Shelf.run Table.empty actions) (Texts.blank.run actions) action := by
  obtain ⟨before, here⟩ := Texts.admitsAll_append.1 admitted
  rw [Texts.admitsAll, Bool.and_eq_true] at here
  have refines := Shelf.refines_empty.run before
  exact (refines.comes here.1).stepsAs refines

/-- A longer text, a shorter one in its place with a zero byte in it, and what is copied where there is nothing. -/
def rewritten : List Action :=
  [.init (some "text"), .assign (some "text") (some (Bytes.ofString "longer")),
    .assignFirst (some "text") (some [97, 0, 98, 99]) 3, .copy (some "copy") (some "text"),
    .release (some "text")]

/-- The copy keeps its capacity when it is overwritten by what is no longer there. -/
theorem refines_texts_rewritten :
    Texts.blank.admitsAll (rewritten ++ [.copy (some "copy") (some "text")]) = true ∧
      Shelf.buffer (Shelf.run Table.empty rewritten) "copy" = { block := some [97, 0, 98, 0], size := 3 } ∧
      Shelf.Refines (Shelf.step (Shelf.run Table.empty rewritten) (.copy (some "copy") (some "text"))).2
        (Function.update (Texts.blank.run rewritten) "copy" (some [])) := by
  have admitted : Texts.blank.admitsAll (rewritten ++ [.copy (some "copy") (some "text")]) = true := by decide
  exact ⟨admitted, by decide, (refines_texts rewritten _ admitted).later⟩

end PubSub.TextBuffer
