import TrafficRules.Text.Utf8
import TrafficRules.Unicode.Ranges

/-! # Regular expressions with their flags applied

`Term` is what an expression means once its flags are resolved: byte strings, sets of bytes or
scalar values, conditions on positions, and the three ways to combine them.

* **Construction.** Terms are built by `Term.cat`, `Term.alt` and `Term.rep`, which keep them
  small: literals are joined, nested lists flattened, alternatives that are all single characters
  or all sets joined to one set, and a start that all alternatives share is moved in front of
  them. The last of these also decides which match is preferred.
* **Lengths.** `Term.minLength?` and `Term.maxLength?` bound the bytes that a match takes; an
  empty set has no such bounds, nor has what contains one as an alternative. -/

namespace TrafficRules.Regex

/-- How the sides of a position compare with respect to word characters. -/
inductive WordEdge where
  | boundary | notBoundary | start | finish | startHalf | finishHalf
deriving DecidableEq, Repr

/-- A condition on a position. -/
inductive Look where
  | textStart
  | textEnd
  | lineStart (crlf : Bool)
  | lineEnd (crlf : Bool)
  | word (edge : WordEdge) (unicode : Bool)
deriving DecidableEq, Repr

/-- A regular expression with its flags applied. -/
inductive Term where
  | empty
  | literal (bytes : Bytes)
  | bytes (set : Ranges)
  | scalars (set : Ranges)
  | look (l : Look)
  | repetition (least : Nat) (most : Option Nat) (greedy : Bool) (body : Term)
  | capture (index : Nat) (body : Term)
  | concat (parts : List Term)
  | alternation (branches : List Term)
deriving Repr

namespace Term

/-! ### Equality -/

mutual

def eqTerm : Term → Term → Bool
  | .empty, .empty => true
  | .literal a, .literal b => a == b
  | .bytes a, .bytes b => a == b
  | .scalars a, .scalars b => a == b
  | .look a, .look b => a == b
  | .repetition l m g a, .repetition l' m' g' b => l == l' && m == m' && g == g' && eqTerm a b
  | .capture i a, .capture j b => i == j && eqTerm a b
  | .concat as, .concat bs => eqTerms as bs
  | .alternation as, .alternation bs => eqTerms as bs
  | _, _ => false

def eqTerms : List Term → List Term → Bool
  | [], [] => true
  | a :: as, b :: bs => eqTerm a b && eqTerms as bs
  | _, _ => false

end

/-! ### Lengths -/

/-- The number of bytes of a scalar value. -/
def scalarLength (n : Nat) : Nat :=
  if n < 0x80 then 1 else if n < 0x800 then 2 else if n < 0x10000 then 3 else 4

/-- The sum, or none where one side has none. -/
def addLengths (a b : Option Nat) : Option Nat := do some ((← a) + (← b))

/-- The choice `f` of two, or none where one side has none. -/
def joinLengths (f : Nat → Nat → Nat) (a b : Option Nat) : Option Nat := do some (f (← a) (← b))

mutual

/-- The least number of bytes that a match takes. -/
def minLength? : Term → Option Nat
  | .empty | .look _ => some 0
  | .literal bs => some bs.length
  | .bytes s => if s.isEmpty then none else some 1
  | .scalars s => s.spans.head?.map fun span => scalarLength span.1
  | .repetition least _ _ body => body.minLength?.map (· * least)
  | .capture _ body => body.minLength?
  | .concat parts => sumMin? parts
  | .alternation branches => leastMin? branches

def sumMin? : List Term → Option Nat
  | [] => some 0
  | t :: rest => addLengths t.minLength? (sumMin? rest)

def leastMin? : List Term → Option Nat
  | [] => none
  | [t] => t.minLength?
  | t :: rest => joinLengths min t.minLength? (leastMin? rest)

end

mutual

/-- The greatest number of bytes that a match takes, where there is one. -/
def maxLength? : Term → Option Nat
  | .empty | .look _ => some 0
  | .literal bs => some bs.length
  | .bytes s => if s.isEmpty then none else some 1
  | .scalars s => s.spans.getLast?.map fun span => scalarLength span.2
  | .repetition _ most _ body => do some ((← body.maxLength?) * (← most))
  | .capture _ body => body.maxLength?
  | .concat parts => sumMax? parts
  | .alternation branches => greatestMax? branches

def sumMax? : List Term → Option Nat
  | [] => some 0
  | t :: rest => addLengths t.maxLength? (sumMax? rest)

def greatestMax? : List Term → Option Nat
  | [] => none
  | [t] => t.maxLength?
  | t :: rest => joinLengths max t.maxLength? (greatestMax? rest)

end

/-- Every match takes at least one byte. -/
def takesInput (t : Term) : Bool := t.minLength?.any (0 < ·)

/-! ### Sets -/

/-- The term that matches nothing. -/
def nothing : Term := .bytes .empty

/-- A set of bytes; a single byte is a literal. -/
def ofBytes (s : Ranges) : Term :=
  match s.spans with
  | [(a, b)] => if a = b then .literal [UInt8.ofNat a] else .bytes s
  | _ => .bytes s

/-- A set of scalar values; a single one is a literal, and none at all is `nothing`. -/
def ofScalars (s : Ranges) : Term :=
  match s.spans with
  | [] => nothing
  | [(a, b)] => if a = b then .literal (String.utf8EncodeChar (Char.ofNat a)) else .scalars s
  | _ => .scalars s

/-! ### Concatenation -/

/-- Puts a part in front of a list of parts, joining literals and leaving out the empty term. -/
def consPart (t : Term) (parts : List Term) : List Term :=
  match t, parts with
  | .empty, _ => parts
  | .literal a, .literal b :: rest => .literal (a ++ b) :: rest
  | _, _ => t :: parts

/-- The parts of a term that is a concatenation, or the term alone. -/
def partsOf : Term → List Term
  | .concat parts => parts
  | t => [t]

/-- The concatenation of terms. -/
def cat (ts : List Term) : Term :=
  match (ts.flatMap partsOf).foldr consPart [] with
  | [] => .empty
  | [t] => t
  | parts => .concat parts

/-! ### Repetition -/

/-- The repetition of a term. What can only match the empty string is repeated at most once; no
repetition at all is empty, and a single one is the term itself. -/
def rep (least : Nat) (most : Option Nat) (greedy : Bool) (body : Term) : Term :=
  let (least, most) :=
    if body.maxLength? = some 0 then (min least 1, some (min (most.getD 1) 1)) else (least, most)
  if least = 0 ∧ most = some 0 then .empty
  else if least = 1 ∧ most = some 1 then body
  else .repetition least most greedy body

/-! ### Alternation -/

/-- The branches of a term that is an alternation, or the term alone. -/
def branchesOf : Term → List Term
  | .alternation branches => branches
  | t => [t]

/-- The scalar value that a literal is, as a set. -/
def literalScalar? : Term → Option Ranges
  | .literal bs =>
      match Utf8.scalar? bs with
      | some (c, n) => if n = bs.length then some (.single c.toNat) else none
      | none => none
  | _ => none

/-- The byte that a literal is, as a set. -/
def literalByte? : Term → Option Ranges
  | .literal [b] => some (.single b.toNat)
  | _ => none

/-- A set of scalar values, or of bytes that are all ASCII. -/
def scalarSet? : Term → Option Ranges
  | .scalars s => some s
  | .bytes s => if s.spans.all fun span => decide (span.2 < 0x80) then some s else none
  | _ => none

/-- A set of bytes, or of scalar values that are all ASCII. -/
def byteSet? : Term → Option Ranges
  | .bytes s => some s
  | .scalars s => if s.spans.all fun span => decide (span.2 < 0x80) then some s else none
  | _ => none

/-- The union of the sets that all terms are. -/
def unionOf? (set? : Term → Option Ranges) : List Term → Option Ranges
  | [] => some .empty
  | t :: rest => do some ((← set? t).union (← unionOf? set? rest))

/-- The single set that alternatives come to: all of them literals of one character, or all of them
sets. Literals do not mix with sets. -/
def joined? (branches : List Term) : Option Term :=
  (unionOf? literalScalar? branches).map ofScalars <|>
    (unionOf? literalByte? branches).map ofBytes <|>
    (unionOf? scalarSet? branches).map ofScalars <|>
    (unionOf? byteSet? branches).map ofBytes

/-- The parts that two lists share at their start. -/
def sharedParts : List Term → List Term → List Term
  | a :: as, b :: bs => if eqTerm a b then a :: sharedParts as bs else []
  | _, _ => []

/-- The parts that all branches start with; none unless each of them is a concatenation. -/
def sharedStart : List Term → List Term
  | [] => []
  | .concat first :: rest =>
      rest.foldl (fun shared t =>
        match t with
        | .concat parts => sharedParts shared parts
        | _ => []) first
  | _ => []

mutual

/-- The number of nodes, which bounds how often a shared start can be moved out. -/
def nodes : Term → Nat
  | .repetition _ _ _ body => body.nodes + 1
  | .capture _ body => body.nodes + 1
  | .concat parts => nodesAll parts + 1
  | .alternation branches => nodesAll branches + 1
  | _ => 1

def nodesAll : List Term → Nat
  | [] => 0
  | t :: rest => t.nodes + nodesAll rest

end

/-- The alternation of terms. `fuel` bounds how often a shared start is moved out. -/
def altWith : Nat → List Term → Term
  | fuel, ts =>
      match ts.flatMap branchesOf with
      | [] => nothing
      | [t] => t
      | branches =>
          match joined? branches with
          | some t => t
          | none =>
              match fuel, sharedStart branches with
              | fuel + 1, first :: others =>
                  let shared := first :: others
                  let rests := branches.map fun t => cat ((partsOf t).drop shared.length)
                  cat (shared ++ [altWith fuel rests])
              | _, _ => .alternation branches

/-- The alternation of terms, in order of preference. -/
def alt (ts : List Term) : Term := altWith (nodesAll ts) ts

end Term
end TrafficRules.Regex
