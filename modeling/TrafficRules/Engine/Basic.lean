import TrafficRules.Engine.Config
import TrafficRules.Engine.Literal

/-! # Matching engines

An `Engine` looks for all signatures of a corpus at once and reports matches by their numbers.

* **Literals.** Signatures that stand for plain strings are looked for together, those that mind
  case in one search and the others in a second one (`literalMatches`).
* **Expressions.** Each other signature is first tried on the whole input, as a member of a set; only
  if it occurs somewhere are its matches searched for, one behind the other
  (`Regex.findAll`).
* **Order.** `Engine.scanFrom` lists matches by where they end, then by number, then by where they
  start. -/

namespace TrafficRules

/-- A match of the signature with the given number. -/
structure Match where
  number : Nat
  start : Nat
  stop : Nat
deriving DecidableEq, Repr

namespace Match

/-- The order in which matches are reported. -/
def le (a b : Match) : Bool :=
  a.stop < b.stop || (a.stop == b.stop &&
    (a.number < b.number || (a.number == b.number && a.start ≤ b.start)))

end Match

/-- The matches of an expression from a position on, each behind the one before; an empty match is
passed over by one byte. -/
def Regex.findAll (r : Regex) (before after : Bytes) (pos : Nat) : List Regex.Span :=
  match r.findAt? before after pos with
  | none => []
  | some span =>
      let next := if span.start < span.stop then span.stop else span.stop + 1
      let n := next - pos - 1
      match _h : after.drop n with
      | [] => [span]
      | b :: rest => span :: r.findAll (b :: ((after.take n).reverse ++ before)) rest next
termination_by after.length
decreasing_by
  have := congrArg List.length _h
  simp only [List.length_drop, List.length_cons] at this
  omega

structure Engine where
  /-- The signatures in the order of their numbers. -/
  signatures : List Signature := []
  /-- The number of bytes that a stream looks back. -/
  window : UInt64 := 65536
deriving Repr

namespace Engine

/-- The literals of signatures with their numbers, those that mind case or the others. -/
def literalsOf (caseless : Bool) (first : Nat) : List Signature → List Literal
  | [] => []
  | s :: rest =>
      match s.literal with
      | some bytes =>
          if s.flags.caseless = caseless then
            ⟨first, bytes, caseless⟩ :: literalsOf caseless (first + 1) rest
          else literalsOf caseless (first + 1) rest
      | none => literalsOf caseless (first + 1) rest

def literals (e : Engine) (caseless : Bool) : List Literal := literalsOf caseless 0 e.signatures

/-- The signatures that are no literals, with their numbers. -/
def expressionsOf (first : Nat) : List Signature → List (Nat × Signature)
  | [] => []
  | s :: rest =>
      if s.literal.isNone then (first, s) :: expressionsOf (first + 1) rest
      else expressionsOf (first + 1) rest

def expressions (e : Engine) : List (Nat × Signature) := expressionsOf 0 e.signatures

/-- The size of the program of all expressions; without any there is none. -/
def setSize (e : Engine) : Nat :=
  match e.expressions with
  | [] => 0
  | es => Regex.setProgramSize (es.map fun (_, s) => s.setRegex.term)

/-- Builds an engine within the limits of a configuration. -/
def build (signatures : List Signature) (c : EngineConfig) : Except Fault Engine :=
  let e : Engine := ⟨signatures, c.streamWindow⟩
  if c.maxPatterns ≠ 0 ∧ c.maxPatterns.toNat < signatures.length then
    .error (.engine (.patterns signatures.length c.maxPatterns.toNat))
  else if c.setSizeLimit.toNat < e.setSize then .error (.engine .setSize)
  else .ok e

/-- The number of signatures. -/
def size (e : Engine) : Nat := e.signatures.length

/-- Whether a stream reports at most one match of a signature. -/
def isSingleMatch (e : Engine) (number : Nat) : Bool :=
  (e.signatures[number]?).any fun s => s.flags.singleMatch

/-- The matches of the literals from a position on, in the order in which they are come upon. -/
def literalMatches (e : Engine) (after : Bytes) (start : Nat) : List Match :=
  let free := List.replicate e.size start
  let (free, sensitive) := Literal.take free (Literal.hits (e.literals false) [] start after)
  let (_, insensitive) := Literal.take free (Literal.hits (e.literals true) [] start after)
  (sensitive ++ insensitive).map fun h => ⟨h.number, h.start, h.stop⟩

/-- The matches of the expressions that occur in the haystack, from a position on. -/
def expressionMatches (e : Engine) (haystack : Bytes) (start : Nat) : List Match :=
  (e.expressions.filter fun (_, s) => s.setRegex.matches? haystack).flatMap fun (number, s) =>
    (s.regex.findAll (haystack.take start).reverse (haystack.drop start) start).map fun span =>
      ⟨number, span.start, span.stop⟩

/-- The matches in a haystack from a position on, with the bytes before as context. -/
def scanFrom (e : Engine) (haystack : Bytes) (start : Nat) : List Match :=
  if haystack.length < start then []
  else
    (e.literalMatches (haystack.drop start) start ++ e.expressionMatches haystack start).mergeSort
      Match.le

/-- The matches in a haystack. -/
def scan (e : Engine) (haystack : Bytes) : List Match := e.scanFrom haystack 0

/-- The numbers of the signatures that match in a haystack, ascending. -/
def matchingNumbers (e : Engine) (haystack : Bytes) : List Nat :=
  (((e.scan haystack).map Match.number).mergeSort (· ≤ ·)).eraseReps

end Engine
end TrafficRules
