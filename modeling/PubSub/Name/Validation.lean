import PubSub.Name.Verdict

/-!
The rules for node names, namespaces, topics as a user writes them, and full topic names.  Each check
reports the first offence in a fixed order of rules: emptiness, the ends of the name, one scan from the
left, and the length last.
-/

namespace PubSub.Name

def slash : UInt8 := 47

def tilde : UInt8 := 126

def openBrace : UInt8 := 123

def closeBrace : UInt8 := 125

def root : Bytes := [slash]

def isDigit (byte : UInt8) : Bool :=
  48 ≤ byte && byte ≤ 57

def isLetter (byte : UInt8) : Bool :=
  (65 ≤ byte && byte ≤ 90) || (97 ≤ byte && byte ≤ 122)

def isTokenByte (byte : UInt8) : Bool :=
  isLetter byte || isDigit byte || byte == 95

def nodeNameLimit : Nat := 255

def namespaceLimit : Nat := 245

def topicLimit : Nat := 255

def checkNodeName (name : Bytes) : Finding :=
  match name with
  | [] => ⟨.emptyName, 0⟩
  | first :: _ =>
      match name.findIdx? (fun byte => !isTokenByte byte) with
      | some index => ⟨.unallowedByte, index⟩
      | none =>
          if isDigit first then ⟨.startsWithDigit, 0⟩
          else if nodeNameLimit < name.length then ⟨.tooLong, nodeNameLimit⟩
          else .clean

def checkAfterSlash (index : Nat) : Bytes → Option Finding
  | [] => none
  | next :: _ =>
      if next = slash then some ⟨.repeatedSlash, index⟩
      else if isDigit next then some ⟨.startsWithDigit, index⟩
      else none

def scanFullTopic (index : Nat) : Bytes → Option Finding
  | [] => none
  | byte :: rest =>
      if byte = slash then
        match checkAfterSlash (index + 1) rest with
        | some finding => some finding
        | none => scanFullTopic (index + 1) rest
      else if isTokenByte byte then scanFullTopic (index + 1) rest
      else some ⟨.unallowedByte, index⟩

/-- A full topic name is absolute: every token follows a slash, and none is empty. -/
def checkFullTopic (topic : Bytes) : Finding :=
  match topic with
  | [] => ⟨.emptyName, 0⟩
  | first :: _ =>
      if first ≠ slash then ⟨.notAbsolute, 0⟩
      else if topic.getLast? = some slash then ⟨.endsWithSlash, topic.length - 1⟩
      else
        match scanFullTopic 0 topic with
        | some finding => finding
        | none =>
            if topicLimit < topic.length then ⟨.tooLong, topicLimit⟩
            else .clean

/-- A namespace is the root or reads like a full topic name, whose own limit is applied first. -/
def checkNamespace (space : Bytes) : Finding :=
  if space = root then .clean
  else
    let finding := checkFullTopic space
    if finding.verdict ≠ .valid then finding
    else if namespaceLimit < space.length then ⟨.tooLong, namespaceLimit⟩
    else finding

/--
Scans a topic as a user writes it, from the given position on.  Between braces only bytes of tokens may
stand; outside them a tilde is allowed at the very start, alone or before a slash.  A brace still open at
the end is reported at the length of the name.
-/
def scanTopic (inside : Bool) (index : Nat) : Bytes → Option Finding
  | [] => if inside then some ⟨.unmatchedBrace, index⟩ else none
  | byte :: rest =>
      if inside then
        if byte = closeBrace then scanTopic false (index + 1) rest
        else if isTokenByte byte then scanTopic true (index + 1) rest
        else some ⟨.unallowedByte, index⟩
      else if byte = openBrace then scanTopic true (index + 1) rest
      else if byte = closeBrace then some ⟨.unmatchedBrace, index⟩
      else if byte = tilde then
        if index = 0 ∧ (rest = [] ∨ rest.head? = some slash) then scanTopic false (index + 1) rest
        else some ⟨.misplacedTilde, index⟩
      else if byte = slash then
        match checkAfterSlash (index + 1) rest with
        | some finding => some finding
        | none => scanTopic false (index + 1) rest
      else if isTokenByte byte then scanTopic false (index + 1) rest
      else some ⟨.unallowedByte, index⟩

/-- A topic as a user writes it: relative or absolute, with a leading tilde and substitutions allowed. -/
def checkTopic (topic : Bytes) : Finding :=
  match topic with
  | [] => ⟨.emptyName, 0⟩
  | first :: _ =>
      if topic.getLast? = some slash then ⟨.endsWithSlash, topic.length - 1⟩
      else
        match scanTopic false 0 topic with
        | some finding => finding
        | none =>
            if isDigit first then ⟨.startsWithDigit, 0⟩
            else if topicLimit < topic.length then ⟨.tooLong, topicLimit⟩
            else .clean

inductive Kind where
  | nodeName
  | nodeNamespace
  | topic
  | fullTopic
  deriving DecidableEq, Repr, Inhabited

def check : Kind → Bytes → Finding
  | .nodeName => checkNodeName
  | .nodeNamespace => checkNamespace
  | .topic => checkTopic
  | .fullTopic => checkFullTopic

end PubSub.Name
