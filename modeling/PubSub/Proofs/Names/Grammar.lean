import Mathlib.Computability.Language
import PubSub.Name.Validation

/-!
The grammars of names, as languages over bytes.

A node name is a token.  A full topic name is a path, which is one token or more with a slash before each.  A
namespace is the root or a shorter path.  A topic as a user writes it may be relative, may begin with a tilde
and may hold keys in braces; what may stand next to a slash in it is said apart.
-/

namespace PubSub.Name

open scoped Computability

def digits : Bytes :=
  Bytes.ofString "0123456789"

def starters : Bytes :=
  Bytes.ofString "ABCDEFGHIJKLMNOPQRSTUVWXYZabcdefghijklmnopqrstuvwxyz_"

def tokenBytes : Bytes :=
  starters ++ digits

theorem isDigit_iff (byte : UInt8) : isDigit byte = true ↔ byte ∈ digits := by
  have all : ∀ code : Fin 256, isDigit (.ofFin code) = true ↔ UInt8.ofFin code ∈ digits := by
    decide +kernel
  exact all byte.toFin

theorem isTokenByte_iff (byte : UInt8) : isTokenByte byte = true ↔ byte ∈ tokenBytes := by
  have all : ∀ code : Fin 256, isTokenByte (.ofFin code) = true ↔ UInt8.ofFin code ∈ tokenBytes := by
    decide +kernel
  exact all byte.toFin

theorem mem_starters_iff (byte : UInt8) : byte ∈ starters ↔ byte ∈ tokenBytes ∧ byte ∉ digits := by
  have apart : ∀ byte ∈ starters, byte ∉ digits := by decide +kernel
  constructor
  · intro starter
    exact ⟨List.mem_append_left _ starter, apart byte starter⟩
  · rintro ⟨token, other⟩
    exact (List.mem_append.1 token).resolve_right other

theorem slash_notMem_tokenBytes : slash ∉ tokenBytes := by decide +kernel

theorem tilde_notMem_tokenBytes : tilde ∉ tokenBytes := by decide +kernel

theorem openBrace_notMem_tokenBytes : openBrace ∉ tokenBytes := by decide +kernel

theorem closeBrace_notMem_tokenBytes : closeBrace ∉ tokenBytes := by decide +kernel

theorem ne_of_plain {byte : UInt8} (plain : byte ∈ tokenBytes ∨ byte = slash) :
    byte ≠ tilde ∧ byte ≠ openBrace ∧ byte ≠ closeBrace := by
  rcases plain with token | rfl
  · refine ⟨?_, ?_, ?_⟩
    · rintro rfl
      exact tilde_notMem_tokenBytes token
    · rintro rfl
      exact openBrace_notMem_tokenBytes token
    · rintro rfl
      exact closeBrace_notMem_tokenBytes token
  · decide

def oneOf (alphabet : Bytes) : Language UInt8 :=
  {word | ∃ byte ∈ alphabet, word = [byte]}

def token : Language UInt8 :=
  oneOf starters * (oneOf tokenBytes)∗

def segment : Language UInt8 :=
  oneOf [slash] * token

def path : Language UInt8 :=
  segment * segment∗

def group : Language UInt8 :=
  oneOf [openBrace] * ((oneOf tokenBytes)∗ * oneOf [closeBrace])

def body : Language UInt8 :=
  (oneOf tokenBytes + oneOf [slash] + group)∗

/-- No slash stands right before another one, nor right before a digit. -/
structure Spaced (name : Bytes) : Prop where
  slashes : ¬ [slash, slash] <:+: name
  digits : ∀ digit ∈ digits, ¬ [slash, digit] <:+: name

/-- The rules for a topic as a user writes it. -/
structure IsTopic (name : Bytes) : Prop where
  spelled : name ∈ (1 + oneOf [tilde]) * body
  afterTilde : ∀ rest, name = tilde :: rest → rest = [] ∨ rest.head? = some slash
  spaced : Spaced name
  start : ∀ digit ∈ digits, name.head? ≠ some digit
  ending : name.getLast? ≠ some slash
  length : 1 ≤ name.length ∧ name.length ≤ 255

def atMost (limit : Nat) (grammar : Language UInt8) : Language UInt8 :=
  {name | name ∈ grammar ∧ name.length ≤ limit}

def Kind.grammar : Kind → Language UInt8
  | .nodeName => atMost 255 token
  | .nodeNamespace => {root} + atMost 245 path
  | .topic => {name | IsTopic name}
  | .fullTopic => atMost 255 path

variable {alphabet : Bytes} {language : Language UInt8} {byte : UInt8} {rest word : Bytes}

theorem nil_notMem_oneOf_mul : [] ∉ oneOf alphabet * language := by
  rintro ⟨_, ⟨byte, _, rfl⟩, rest, _, joined⟩
  cases joined

theorem cons_mem_oneOf_mul : byte :: rest ∈ oneOf alphabet * language ↔ byte ∈ alphabet ∧ rest ∈ language := by
  constructor
  · rintro ⟨_, ⟨first, known, rfl⟩, word, member, joined⟩
    cases joined
    exact ⟨known, member⟩
  · rintro ⟨known, member⟩
    exact ⟨[byte], ⟨byte, known, rfl⟩, rest, member, rfl⟩

/-- A repetition is empty, or its first word is followed by a repetition. -/
theorem kstar_unroll (language following : Language UInt8) :
    language∗ * following = following + language * (language∗ * following) := by
  conv_lhs => rw [← Language.one_add_self_mul_kstar_eq_kstar language]
  rw [add_mul, one_mul, mul_assoc]

theorem mem_oneOf_kstar : word ∈ (oneOf alphabet)∗ ↔ ∀ byte ∈ word, byte ∈ alphabet := by
  induction word with
  | nil => simp [Language.nil_mem_kstar]
  | cons byte rest ih =>
      rw [← Language.one_add_self_mul_kstar_eq_kstar, Language.mem_add, Language.mem_one, cons_mem_oneOf_mul, ih]
      simp

theorem nil_notMem_token : [] ∉ token :=
  nil_notMem_oneOf_mul

theorem cons_mem_token :
    byte :: rest ∈ token ↔ byte ∈ starters ∧ ∀ other ∈ rest, other ∈ tokenBytes := by
  rw [token, cons_mem_oneOf_mul, mem_oneOf_kstar]

def continuation : Language UInt8 :=
  (oneOf tokenBytes)∗ * segment∗

theorem path_eq : path = oneOf [slash] * (oneOf starters * continuation) := by
  have first : segment = oneOf [slash] * (oneOf starters * (oneOf tokenBytes)∗) := rfl
  rw [path, continuation]
  nth_rewrite 1 [first]
  rw [mul_assoc, mul_assoc]

theorem continuation_eq : continuation = 1 + path + oneOf tokenBytes * continuation := by
  have segments : 1 + path = segment∗ := Language.one_add_self_mul_kstar_eq_kstar segment
  rw [segments]
  exact kstar_unroll (oneOf tokenBytes) segment∗

theorem nil_mem_continuation : [] ∈ continuation :=
  ⟨[], Language.nil_mem_kstar _, [], Language.nil_mem_kstar _, rfl⟩

theorem cons_mem_continuation :
    byte :: rest ∈ continuation ↔
      byte = slash ∧ rest ∈ oneOf starters * continuation ∨ byte ∈ tokenBytes ∧ rest ∈ continuation := by
  conv_lhs => rw [continuation_eq]
  simp only [path_eq, Language.mem_add, Language.mem_one, cons_mem_oneOf_mul, List.mem_singleton,
    reduceCtorEq, false_or]

theorem nil_notMem_path : [] ∉ path := by
  rw [path_eq]
  exact nil_notMem_oneOf_mul

theorem cons_mem_path :
    byte :: rest ∈ path ↔ byte = slash ∧ rest ∈ oneOf starters * continuation := by
  rw [path_eq, cons_mem_oneOf_mul, List.mem_singleton]

def inBraces : Language UInt8 :=
  (oneOf tokenBytes)∗ * (oneOf [closeBrace] * body)

theorem nil_mem_body : [] ∈ body :=
  Language.nil_mem_kstar _

theorem cons_mem_body :
    byte :: rest ∈ body ↔
      byte ∈ tokenBytes ∧ rest ∈ body ∨ byte = slash ∧ rest ∈ body ∨ byte = openBrace ∧ rest ∈ inBraces := by
  have unrolled : body =
      1 + (oneOf tokenBytes * body + oneOf [slash] * body + oneOf [openBrace] * inBraces) := by
    conv_lhs => rw [body, ← Language.one_add_self_mul_kstar_eq_kstar, ← body]
    rw [add_mul, add_mul, group, inBraces, mul_assoc, mul_assoc]
  conv_lhs => rw [unrolled]
  simp only [Language.mem_add, Language.mem_one, cons_mem_oneOf_mul, List.mem_singleton, reduceCtorEq,
    false_or, or_assoc]

theorem inBraces_eq : inBraces = oneOf [closeBrace] * body + oneOf tokenBytes * inBraces :=
  kstar_unroll (oneOf tokenBytes) (oneOf [closeBrace] * body)

theorem nil_notMem_inBraces : [] ∉ inBraces := by
  rw [inBraces_eq, Language.mem_add]
  rintro (closed | goesOn)
  · exact nil_notMem_oneOf_mul closed
  · exact nil_notMem_oneOf_mul goesOn

theorem cons_mem_inBraces :
    byte :: rest ∈ inBraces ↔
      byte = closeBrace ∧ rest ∈ body ∨ byte ∈ tokenBytes ∧ rest ∈ inBraces := by
  conv_lhs => rw [inBraces_eq]
  rw [Language.mem_add, cons_mem_oneOf_mul, cons_mem_oneOf_mul, List.mem_singleton]

theorem mem_spelled_of_head (other : word.head? ≠ some tilde) :
    word ∈ (1 + oneOf [tilde]) * body ↔ word ∈ body := by
  rw [add_mul, one_mul, Language.mem_add, or_iff_left]
  intro tilded
  cases word with
  | nil => exact nil_notMem_oneOf_mul tilded
  | cons byte rest =>
      have first := List.mem_singleton.1 (cons_mem_oneOf_mul.1 tilded).1
      exact other (congrArg some first)

theorem tilde_cons_mem_spelled : tilde :: rest ∈ (1 + oneOf [tilde]) * body ↔ rest ∈ body := by
  have other : tilde :: rest ∉ body := by
    rw [cons_mem_body]
    rintro (⟨token, _⟩ | ⟨slashed, _⟩ | ⟨opened, _⟩)
    · exact tilde_notMem_tokenBytes token
    · exact absurd slashed (by decide)
    · exact absurd opened (by decide)
  rw [add_mul, one_mul, Language.mem_add, or_iff_right other, cons_mem_oneOf_mul, List.mem_singleton]
  exact and_iff_right rfl

theorem pair_infix_cons {first second : UInt8} :
    [first, second] <:+: byte :: rest ↔
      byte = first ∧ rest.head? = some second ∨ [first, second] <:+: rest := by
  rw [List.infix_cons_iff, List.cons_prefix_cons]
  cases rest with
  | nil => simp
  | cons next others => simp [List.cons_prefix_cons, eq_comm]

theorem spaced_nil : Spaced [] := by
  constructor
  · simp
  · simp

theorem spaced_cons_of_ne (other : byte ≠ slash) : Spaced (byte :: rest) ↔ Spaced rest := by
  have same : ∀ second, [slash, second] <:+: byte :: rest ↔ [slash, second] <:+: rest := by
    intro second
    rw [pair_infix_cons, or_iff_right (fun both => other both.1)]
  constructor
  · rintro ⟨slashes, digits⟩
    exact ⟨fun pair => slashes ((same slash).2 pair), fun digit known pair => digits digit known ((same digit).2 pair)⟩
  · rintro ⟨slashes, digits⟩
    exact ⟨fun pair => slashes ((same slash).1 pair), fun digit known pair => digits digit known ((same digit).1 pair)⟩

theorem spaced_slash_cons :
    Spaced (slash :: rest) ↔
      (rest.head? ≠ some slash ∧ ∀ digit ∈ digits, rest.head? ≠ some digit) ∧ Spaced rest := by
  constructor
  · rintro ⟨slashes, digits⟩
    simp only [pair_infix_cons, true_and, not_or] at slashes digits
    exact ⟨⟨slashes.1, fun digit known => (digits digit known).1⟩,
      slashes.2, fun digit known => (digits digit known).2⟩
  · rintro ⟨⟨slash, digit⟩, spaced⟩
    constructor
    · rw [pair_infix_cons]
      rintro (⟨_, next⟩ | later)
      · exact slash next
      · exact spaced.slashes later
    · intro other known
      rw [pair_infix_cons]
      rintro (⟨_, next⟩ | later)
      · exact digit other known next
      · exact spaced.digits other known later

end PubSub.Name
