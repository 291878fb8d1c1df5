import PubSub.Name.Expansion

/-!
Process arguments.  Sections that open with `--ros-args` and close with `--` hold remap rules; all other
arguments belong to the application and are only kept.
-/

namespace PubSub

def sectionFlag : Bytes := Bytes.ofString "--ros-args"

def sectionEnd : Bytes := Bytes.ofString "--"

def ruleFlag : Bytes := Bytes.ofString "-r"

def longRuleFlag : Bytes := Bytes.ofString "--remap"

inductive Rule where
  | nodeName (name : Bytes)
  | nodeNamespace (space : Bytes)
  | topic (remap : Name.Remap)
  deriving DecidableEq, Repr, Inhabited

def splitRule : Bytes → Option (Bytes × Bytes)
  | [] => none
  | [_] => none
  | first :: second :: rest =>
      if first = 58 ∧ second = 61 then some ([], rest)
      else
        match splitRule (second :: rest) with
        | some (before, after) => some (first :: before, after)
        | none => none

def Rule.make (source target : Bytes) : Rule :=
  if source = Bytes.ofString "__node" ∨ source = Bytes.ofString "__name" then .nodeName target
  else if source = Bytes.ofString "__ns" then .nodeNamespace target
  else .topic { source, target }

def Rule.parse (text : Bytes) : Except Fault Rule :=
  match splitRule text with
  | some (source, target) =>
      if source = [] ∨ target = [] then .error (.malformedRule text)
      else .ok (.make source target)
  | none => .error (.malformedRule text)

structure Arguments where
  given : List Bytes
  nodeName : Option Bytes
  nodeNamespace : Option Bytes
  remaps : List Name.Remap
  deriving DecidableEq, Repr, Inhabited

namespace Arguments

def empty : Arguments :=
  { given := []
    nodeName := none
    nodeNamespace := none
    remaps := [] }

inductive Place where
  | outside
  | inSection
  | afterFlag (flag : Bytes)
  deriving DecidableEq, Repr

/--
Reads the rules of all sections, in order.  The count is the position of the next argument, and an
argument may be missing.
-/
def readRules (place : Place) (index : Nat) : List (Option Bytes) → Except Fault (List Rule)
  | [] =>
      match place with
      | .afterFlag flag => .error (.missingRule flag)
      | _ => .ok []
  | none :: _ =>
      match place with
      | .afterFlag flag => .error (.missingRule flag)
      | _ => .error (.missingArgument index)
  | some argument :: rest =>
      match place with
      | .outside =>
          readRules (if argument = sectionFlag then .inSection else .outside) (index + 1) rest
      | .inSection =>
          if argument = sectionEnd then readRules .outside (index + 1) rest
          else if argument = sectionFlag then readRules .inSection (index + 1) rest
          else if argument = ruleFlag ∨ argument = longRuleFlag then
            readRules (.afterFlag argument) (index + 1) rest
          else .error (.unknownArgument argument)
      | .afterFlag _ =>
          match Rule.parse argument with
          | .error fault => .error fault
          | .ok rule =>
              match readRules .inSection (index + 1) rest with
              | .error fault => .error fault
              | .ok rules => .ok (rule :: rules)

/-- Takes one more rule into account; a later name or namespace replaces an earlier one. -/
def addRule (arguments : Arguments) : Rule → Arguments
  | .nodeName name => { arguments with nodeName := some name }
  | .nodeNamespace space => { arguments with nodeNamespace := some space }
  | .topic remap => { arguments with remaps := arguments.remaps ++ [remap] }

def ofRules (given : List Bytes) (rules : List Rule) : Arguments :=
  rules.foldl addRule { empty with given := given }

def ofList (arguments : List (Option Bytes)) : Except Fault Arguments :=
  let texts := arguments.map (Option.map Bytes.beforeNul)
  match readRules .outside 0 texts with
  | .error fault => .error fault
  | .ok rules => .ok (ofRules (texts.filterMap id) rules)

/--
Reads an argument vector of a stated length.  The vector itself may be missing where the length is zero;
elements beyond the end of a shorter one are missing.
-/
def parse (vector : Option (List (Option Bytes))) (count : Int) : Except Fault Arguments :=
  if count < 0 then .error .invalidArgumentVector
  else
    match vector with
    | none => if 0 < count then .error .invalidArgumentVector else .ok empty
    | some arguments =>
        let length := count.toNat
        ofList (arguments.take length ++ if arguments.length < length then [none] else [])

end Arguments

end PubSub
