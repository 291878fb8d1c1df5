import PubSub.Fault

/-!
Expansion of a topic against the node that uses it, and remapping of the result.

A leading tilde stands for the node's full name, `node` in braces for its name, `ns` and `namespace` in
braces for its namespace; what is then still relative goes below the namespace.  One pass from the left
replaces the substitutions, and nothing that was put in is looked at again.
-/

namespace PubSub.Name

structure Owner where
  name : Bytes
  space : Bytes
  deriving DecidableEq, Repr, Inhabited

def join (space rest : Bytes) : Bytes :=
  if space = root then slash :: rest else space ++ slash :: rest

def Owner.fullName (owner : Owner) : Bytes :=
  join owner.space owner.name

/--
The text a key stands for.  The root namespace gives nothing where a slash follows, so that the slash is
not doubled.
-/
def Owner.value? (owner : Owner) (key : Bytes) (slashFollows : Bool) : Option Bytes :=
  if key = Bytes.ofString "node" then some owner.name
  else if key = Bytes.ofString "ns" ∨ key = Bytes.ofString "namespace" then
    if owner.space = root ∧ slashFollows then some [] else some owner.space
  else none

inductive Substitution where
  | finished (text : Bytes)
  | unknown (key : Bytes)
  | endless (key : Bytes)
  deriving DecidableEq, Repr

def Substitution.after (front : Bytes) : Substitution → Substitution
  | .finished text => .finished (front ++ text)
  | .unknown key => .unknown key
  | .endless key => .endless key

/--
Replaces the substitutions of a text.  The second argument is the key read so far while a brace is open.
A key that nothing closes runs to the end of the text; if it is known, the pass starts over at the front
of the text and comes to the same place again, for ever.
-/
def substitute (owner : Owner) : Option Bytes → Bytes → Substitution
  | none, [] => .finished []
  | none, byte :: rest =>
      if byte = openBrace then substitute owner (some []) rest
      else (substitute owner none rest).after [byte]
  | some key, [] =>
      match owner.value? key false with
      | some _ => .endless key
      | none => .unknown key
  | some key, byte :: rest =>
      if byte = closeBrace then
        match owner.value? key (rest.head? = some slash) with
        | some value => (substitute owner none rest).after value
        | none => .unknown key
      else substitute owner (some (key ++ [byte])) rest

inductive Expansion where
  | expanded (topic : Bytes)
  | rejected (fault : Fault)
  | endless (key : Bytes)
  deriving DecidableEq, Repr

/-- The text in which substitutions are looked for: a leading tilde already stands for the full name. -/
def Owner.withoutTilde (owner : Owner) : Bytes → Bytes
  | [] => []
  | byte :: rest => if byte = tilde then owner.fullName ++ rest else byte :: rest

def Owner.absolute (owner : Owner) (topic : Bytes) : Bytes :=
  if topic.head? = some slash then topic else join owner.space topic

def Owner.expand (owner : Owner) (topic : Bytes) : Expansion :=
  let finding := checkTopic topic
  if finding.verdict ≠ .valid then .rejected (.invalidTopic topic finding)
  else
    match substitute owner none (owner.withoutTilde topic) with
    | .endless key => .endless key
    | .unknown key => .rejected (.unknownSubstitution key topic)
    | .finished text =>
        let full := owner.absolute text
        let verdict := (checkFullTopic full).verdict
        if verdict ≠ .valid then .rejected (.invalidExpandedTopic full verdict)
        else .expanded full

structure Remap where
  source : Bytes
  target : Bytes
  deriving DecidableEq, Repr, Inhabited

/--
The expansion of a topic by a node.  A node's own name and namespace hold no braces, so its topics have
closed substitutions only; a key left open would count as unknown.
-/
def Owner.expandTopic (owner : Owner) (topic : Bytes) : Except Fault Bytes :=
  match owner.expand topic with
  | .expanded full => .ok full
  | .rejected fault => .error fault
  | .endless key => .error (.unknownSubstitution key topic)

def Remap.applies (rule : Remap) (owner : Owner) (topic : Bytes) : Bool :=
  match owner.expandTopic rule.source with
  | .ok full => full == topic
  | .error _ => false

def Remap.isIdle (rule : Remap) (owner : Owner) : Bool :=
  match owner.expandTopic rule.source with
  | .ok _ => false
  | .error _ => true

/-- A resolved topic, and whether an idle rule was passed over on the way to it. -/
structure Resolution where
  result : Except Fault Bytes
  passedIdle : Bool

/--
The full name of a topic after remapping.  The first rule whose source expands to the topic's own full
name gives its target, expanded; the result is not remapped again.
-/
def Owner.resolve (owner : Owner) (rules : List Remap) (topic : Bytes) : Resolution :=
  match owner.expandTopic topic with
  | .error fault => { result := .error fault, passedIdle := false }
  | .ok full =>
      { result :=
          match rules.find? (fun rule => rule.applies owner full) with
          | none => .ok full
          | some rule => owner.expandTopic rule.target
        passedIdle :=
          (rules.takeWhile (fun rule => !rule.applies owner full)).any
            (fun rule => rule.isIdle owner) }

end PubSub.Name
