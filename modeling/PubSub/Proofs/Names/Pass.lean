import PubSub.Proofs.Names.Template

/-!
The pass that replaces the substitutions of a text, turn by turn.

Every turn goes forward, and the pass stops with what `substitute` says, unless a key that stands for something is
open at the end of the text.  Then the search for its closing brace finds no place, and the pass starts over.
-/

namespace PubSub.Name

structure Pass where
  position : Nat
  written : Bytes
  deriving DecidableEq, Repr

def Pass.start : Pass where
  position := 0
  written := []

inductive Turn where
  | goesOn (pass : Pass)
  | stops (outcome : Substitution)
  deriving DecidableEq, Repr

/-- The first place, from the given one on, where a brace closes. -/
def closing? (text : Bytes) (position : Nat) : Option Nat :=
  ((text.drop position).idxOf? closeBrace).map (position + ·)

/-- One turn of the loop over the places of a text. -/
def Owner.turn (owner : Owner) (text : Bytes) (pass : Pass) : Turn :=
  match text[pass.position]? with
  | none => .stops (.finished pass.written)
  | some byte =>
      if byte = openBrace then
        let close := closing? text pass.position
        let behind := text.drop (pass.position + 1)
        let key := match close with
          | some place => behind.take (place - pass.position - 1)
          | none => behind
        -- Where no place is found, the largest count there is stands for it, and the next one is zero.
        let next := match close with
          | some place => place + 1
          | none => 0
        match owner.value? key (text[next]? = some slash) with
        | some value => .goesOn { position := next, written := pass.written ++ value }
        | none => .stops (.unknown key)
      else .goesOn { position := pass.position + 1, written := pass.written ++ [byte] }

def Owner.turns (owner : Owner) (text : Bytes) : Nat → Pass → Turn
  | 0, pass => .goesOn pass
  | count + 1, pass =>
      match owner.turn text pass with
      | .goesOn next => owner.turns text count next
      | .stops outcome => .stops outcome

/-- Whether a key that stands for something is open where a text ends. -/
def Owner.RunsOn (owner : Owner) (text : Bytes) : Prop :=
  ∃ key, substitute owner none text = .endless key

/-- Every turn of the pass goes forward, and in one turn more than there are bytes it stops as it should. -/
structure Owner.Ends (owner : Owner) (text : Bytes) : Prop where
  forward : ∀ count pass next, owner.turns text count .start = .goesOn pass →
    owner.turn text pass = .goesOn next → pass.position < next.position
  stops : owner.turns text (text.length + 1) .start = .stops (substitute owner none text)

variable {owner : Owner} {text rest name : Bytes} {pass next : Pass} {byte : UInt8} {count : Nat}

theorem after_eq_finished {outcome : Substitution} {value written : Bytes} :
    outcome.after value = .finished written ↔ ∃ later, outcome = .finished later ∧ value ++ later = written := by
  cases outcome <;> simp [Substitution.after]

@[simp]
theorem after_eq_endless {outcome : Substitution} {value key : Bytes} :
    outcome.after value = .endless key ↔ outcome = .endless key := by
  cases outcome <;> simp [Substitution.after]

/-- A text begins with another byte, with a key that is closed, or with one that is not. -/
@[elab_as_elim]
theorem braces_induction {motive : Bytes → Prop} (nil : motive [])
    (other : ∀ byte rest, byte ≠ openBrace → motive rest → motive (byte :: rest))
    (closed : ∀ name rest, closeBrace ∉ name → motive rest → motive (openBrace :: (name ++ closeBrace :: rest)))
    (left : ∀ name, closeBrace ∉ name → motive (openBrace :: name)) (text : Bytes) : motive text := by
  induction size : text.length using Nat.strong_induction_on generalizing text with
  | _ size ih =>
      subst size
      cases text with
      | nil => exact nil
      | cons byte rest =>
          by_cases opened : byte = openBrace
          · subst opened
            by_cases closes : closeBrace ∈ rest
            · obtain ⟨name, after, rfl, clean⟩ := List.eq_append_cons_of_mem closes
              exact closed name after clean (ih after.length (by simp; omega) after rfl)
            · exact left rest closes
          · exact other byte rest opened (ih rest.length (by simp) rest rfl)

theorem substitute_read_open (clean : closeBrace ∉ name) (read : Bytes) :
    substitute owner (some read) name =
      match owner.value? (read ++ name) false with
      | some _ => .endless (read ++ name)
      | none => .unknown (read ++ name) := by
  induction name generalizing read with
  | nil =>
      rw [List.append_nil]
      rfl
  | cons byte more ih =>
      have other : byte ≠ closeBrace := fun same => clean (same ▸ List.mem_cons_self)
      have later := ih (fun member => clean (List.mem_cons_of_mem byte member)) (read ++ [byte])
      conv_lhs => unfold substitute
      rw [if_neg other, later, List.append_assoc, List.singleton_append]

theorem substitute_open (clean : closeBrace ∉ name) :
    substitute owner none (openBrace :: name) =
      match owner.value? name false with
      | some _ => .endless name
      | none => .unknown name := by
  conv_lhs => unfold substitute
  rw [if_pos rfl, substitute_read_open clean, List.nil_append]

theorem substitute_open_of_mem (clean : closeBrace ∉ name) (known : name ∈ keys) :
    substitute owner none (openBrace :: name) = .endless name := by
  rw [substitute_open clean, Owner.value?_of_mem known]

theorem substitute_open_of_notMem (clean : closeBrace ∉ name) (unknown : name ∉ keys) :
    substitute owner none (openBrace :: name) = .unknown name := by
  rw [substitute_open clean, Owner.value?_of_notMem unknown]

theorem Owner.not_runsOn_of_finished {written : Bytes}
    (finished : substitute owner none text = .finished written) : ¬ owner.RunsOn text := by
  rintro ⟨key, endless⟩
  rw [finished] at endless
  cases endless

theorem Owner.not_runsOn_of_unknown {key : Bytes} (unknown : substitute owner none text = .unknown key) :
    ¬ owner.RunsOn text := by
  rintro ⟨other, endless⟩
  rw [unknown] at endless
  cases endless

theorem substitute_closed_of_notMem (clean : closeBrace ∉ name) (unknown : name ∉ keys) (rest : Bytes) :
    substitute owner none (openBrace :: (name ++ closeBrace :: rest)) = .unknown name := by
  rw [substitute_closed clean, Owner.value?_of_notMem unknown]

theorem Owner.turn_of_end (here : text.drop pass.position = []) :
    owner.turn text pass = .stops (.finished pass.written) := by
  have none : text[pass.position]? = none := by rw [← List.head?_drop, here, List.head?_nil]
  unfold turn
  rw [none]

theorem Owner.turn_of_literal (here : text.drop pass.position = byte :: rest) (other : byte ≠ openBrace) :
    owner.turn text pass = .goesOn { position := pass.position + 1, written := pass.written ++ [byte] } := by
  have first : text[pass.position]? = some byte := by rw [← List.head?_drop, here, List.head?_cons]
  unfold turn
  rw [first]
  exact if_neg other

theorem closing?_of_closed {position : Nat}
    (here : text.drop position = openBrace :: (name ++ closeBrace :: rest)) (clean : closeBrace ∉ name) :
    closing? text position = some (position + name.length + 1) := by
  have found : (name ++ closeBrace :: rest).idxOf? closeBrace = some name.length := by
    clear here
    induction name with
    | nil => simp [List.idxOf?_cons]
    | cons byte more ih =>
        rw [List.mem_cons, not_or] at clean
        simp [List.idxOf?_cons, ih clean.2, Ne.symm clean.1]
  have opening : (openBrace == closeBrace) = false := by decide
  unfold closing?
  rw [here, List.idxOf?_cons, found, opening]
  rfl

theorem closing?_of_open {position : Nat} (here : text.drop position = openBrace :: name)
    (clean : closeBrace ∉ name) : closing? text position = none := by
  have absent : closeBrace ∉ openBrace :: name := by
    rw [List.mem_cons, not_or]
    exact ⟨by decide, clean⟩
  unfold closing?
  rw [here, List.idxOf?_eq_none_iff.2 absent, Option.map_none]

theorem Owner.turn_of_closed (here : text.drop pass.position = openBrace :: (name ++ closeBrace :: rest))
    (clean : closeBrace ∉ name) :
    owner.turn text pass =
      match owner.value? name (rest.head? = some slash) with
      | some value =>
          .goesOn { position := pass.position + name.length + 2, written := pass.written ++ value }
      | none => .stops (.unknown name) := by
  have first : text[pass.position]? = some openBrace := by rw [← List.head?_drop, here, List.head?_cons]
  have behind : text.drop (pass.position + 1) = name ++ closeBrace :: rest := by
    rw [← List.drop_drop, here, List.drop_one, List.tail_cons]
  have key : (name ++ closeBrace :: rest).take (pass.position + name.length + 1 - pass.position - 1) = name := by
    rw [show pass.position + name.length + 1 - pass.position - 1 = name.length by omega, List.take_left]
  have after : text[pass.position + name.length + 1 + 1]? = rest.head? := by
    rw [← List.head?_drop, show pass.position + name.length + 1 + 1 = pass.position + 1 + (name.length + 1) by omega,
      ← List.drop_drop, behind, List.drop_append, List.drop_of_length_le (by omega)]
    simp
  unfold turn
  simp only [first, closing?_of_closed here clean, behind, key, after, ↓reduceIte]

theorem Owner.turn_of_open (here : text.drop pass.position = openBrace :: name) (clean : closeBrace ∉ name) :
    owner.turn text pass =
      match owner.value? name (text.head? = some slash) with
      | some value => .goesOn { position := 0, written := pass.written ++ value }
      | none => .stops (.unknown name) := by
  have first : text[pass.position]? = some openBrace := by rw [← List.head?_drop, here, List.head?_cons]
  have behind : text.drop (pass.position + 1) = name := by
    rw [← List.drop_drop, here, List.drop_one, List.tail_cons]
  unfold turn
  simp only [first, closing?_of_open here clean, behind, ↓reduceIte, List.head?_eq_getElem?]

theorem drop_add_length {position : Nat} {front : Bytes} (nonempty : front ≠ [])
    (here : text.drop position = front ++ rest) :
    position + front.length ≤ text.length ∧ text.drop (position + front.length) = rest := by
  constructor
  · have lengths := congrArg List.length here
    have positive := List.length_pos_of_ne_nil nonempty
    rw [List.length_drop, List.length_append] at lengths
    omega
  · rw [← List.drop_drop, here, List.drop_left]

/--
All that a turn can do, told by what is left of the text: it stops with the outcome of that, or it goes forward, or
a key is left open and the turn goes back to the start.
-/
theorem Owner.turn_cases (owner : Owner) (text : Bytes) (pass : Pass) :
    (owner.turn text pass = .stops ((substitute owner none (text.drop pass.position)).after pass.written) ∧
        ¬ owner.RunsOn (text.drop pass.position)) ∨
      (∃ value next, owner.turn text pass = .goesOn { position := next, written := pass.written ++ value } ∧
        pass.position < next ∧ next ≤ text.length ∧
        substitute owner none (text.drop pass.position) = (substitute owner none (text.drop next)).after value) ∨
      (∃ value, owner.turn text pass = .goesOn { position := 0, written := pass.written ++ value } ∧
        owner.RunsOn (text.drop pass.position)) := by
  generalize here : text.drop pass.position = left
  cases left using braces_induction with
  | nil =>
      rw [turn_of_end here]
      exact .inl ⟨by simp [substitute, Substitution.after], not_runsOn_of_finished rfl⟩
  | other byte rest other _ =>
      have step := @drop_add_length text rest pass.position [byte] (by simp) here
      refine .inr (.inl ⟨[byte], pass.position + 1, turn_of_literal here other, by omega, step.1, ?_⟩)
      rw [substitute_literal other, ← step.2]
      rfl
  | closed name rest clean _ =>
      have step := @drop_add_length text rest pass.position (openBrace :: (name ++ [closeBrace])) (by simp)
        (by simp [here])
      have width : (openBrace :: (name ++ [closeBrace])).length = name.length + 2 := by simp
      rw [width, ← Nat.add_assoc] at step
      rw [turn_of_closed here clean]
      by_cases known : name ∈ keys
      · rw [substitute_closed clean, Owner.value?_of_mem known]
        exact .inr (.inl ⟨_, _, rfl, by omega, step.1, by rw [step.2]⟩)
      · have unknown := @substitute_closed_of_notMem owner name clean known rest
        rw [Owner.value?_of_notMem known, unknown]
        exact .inl ⟨rfl, not_runsOn_of_unknown unknown⟩
  | left name clean =>
      rw [turn_of_open here clean]
      by_cases known : name ∈ keys
      · rw [Owner.value?_of_mem known]
        exact .inr (.inr ⟨_, rfl, name, substitute_open_of_mem clean known⟩)
      · have unknown := @substitute_open_of_notMem owner name clean known
        rw [Owner.value?_of_notMem known, unknown]
        exact .inl ⟨rfl, not_runsOn_of_unknown unknown⟩

theorem Owner.turn_forward (ends : ¬ owner.RunsOn (text.drop pass.position))
    (turned : owner.turn text pass = .goesOn next) :
    pass.position < next.position ∧ ¬ owner.RunsOn (text.drop next.position) := by
  rcases owner.turn_cases text pass with ⟨stopped, _⟩ | ⟨value, place, gone, forward, _, same⟩ | ⟨_, _, runsOn⟩
  · rw [stopped] at turned
    cases turned
  · rw [gone] at turned
    cases turned
    rw [RunsOn, same] at ends
    simp only [after_eq_endless] at ends
    exact ⟨forward, ends⟩
  · exact absurd runsOn ends

theorem Owner.not_runsOn_of_turns (ends : ¬ owner.RunsOn (text.drop pass.position))
    (reached : owner.turns text count pass = .goesOn next) : ¬ owner.RunsOn (text.drop next.position) := by
  induction count generalizing pass with
  | zero =>
      cases reached
      exact ends
  | succ count ih =>
      unfold turns at reached
      split at reached
      · rename_i turned
        exact ih (turn_forward ends turned).2 reached
      · cases reached

/-- A pass that comes to an end needs one turn at most for each byte that is left, and one to see the end. -/
theorem Owner.turns_stop (ends : ¬ owner.RunsOn (text.drop pass.position)) (inside : pass.position ≤ text.length)
    (enough : text.length < count + pass.position) :
    owner.turns text count pass =
      .stops ((substitute owner none (text.drop pass.position)).after pass.written) := by
  induction count generalizing pass with
  | zero => omega
  | succ count ih =>
      unfold turns
      rcases owner.turn_cases text pass with
        ⟨stopped, _⟩ | ⟨value, place, gone, forward, within, same⟩ | ⟨_, _, runsOn⟩
      · rw [stopped]
      · have left := (turn_forward ends gone).2
        rw [gone, same, Substitution.after_after]
        exact ih left within (by simp only; omega)
      · exact absurd runsOn ends

theorem Owner.ends_of_not_runsOn (ends : ¬ owner.RunsOn text) : owner.Ends text where
  forward := by
    intro count pass next reached turned
    exact (turn_forward (not_runsOn_of_turns ends reached) turned).1
  stops := by
    rw [turns_stop ends (Nat.zero_le _) (by simp [Pass.start])]
    simp [Pass.start]

/-- In a text that leaves a key open, a turn that has that key before it comes to a place that has. -/
theorem Owner.turn_runsOn (whole : owner.RunsOn text) (here : owner.RunsOn (text.drop pass.position)) :
    ∃ next, owner.turn text pass = .goesOn next ∧ owner.RunsOn (text.drop next.position) := by
  obtain ⟨key, endless⟩ := here
  rcases owner.turn_cases text pass with ⟨_, ends⟩ | ⟨value, place, gone, _, _, same⟩ | ⟨value, gone, _⟩
  · exact absurd ⟨key, endless⟩ ends
  · rw [endless] at same
    exact ⟨_, gone, key, after_eq_endless.1 same.symm⟩
  · exact ⟨_, gone, whole⟩

theorem Owner.turns_runsOn (whole : owner.RunsOn text) (here : owner.RunsOn (text.drop pass.position)) (count : Nat) :
    ∃ next, owner.turns text count pass = .goesOn next := by
  induction count generalizing pass with
  | zero => exact ⟨pass, rfl⟩
  | succ count ih =>
      obtain ⟨next, gone, left⟩ := turn_runsOn whole here
      unfold turns
      rw [gone]
      exact ih left

theorem Owner.goesOn_of_runsOn (runsOn : owner.RunsOn text) (count : Nat) :
    ∃ next, owner.turns text count .start = .goesOn next :=
  turns_runsOn runsOn (by simpa [Pass.start] using runsOn) count

end PubSub.Name
