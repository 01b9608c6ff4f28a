import TrafficRules.Text.Utf8

/-! # Searching for plain strings

`Literal.hits` finds every occurrence of several literals in one pass over the input, in the order
in which they end, overlapping ones included. `Literal.take` then keeps, for each number, only
occurrences that start where the last one kept has ended. -/

namespace TrafficRules

/-- A plain string to look for, under a number. -/
structure Literal where
  number : Nat
  bytes : Bytes
  /-- Whether ASCII letters of either case are the same. -/
  caseless : Bool
deriving DecidableEq, Repr

namespace Literal

/-- An occurrence of the literal with the given number. -/
structure Hit where
  number : Nat
  start : Nat
  stop : Nat
deriving DecidableEq, Repr

/-- The lowercase form of an ASCII letter. -/
def lower (b : UInt8) : UInt8 := if 65 ≤ b ∧ b ≤ 90 then b + 32 else b

def sameByte (caseless : Bool) (a b : UInt8) : Bool :=
  if caseless then lower a == lower b else a == b

/-- Whether the first of two byte strings starts the second, up to case. -/
def starts (caseless : Bool) : Bytes → Bytes → Bool
  | [], _ => true
  | _ :: _, [] => false
  | a :: s, b :: t => sameByte caseless a b && starts caseless s t

/-- A literal that is looked for backwards. -/
structure Reversed where
  number : Nat
  bytes : Bytes
  length : Nat
  caseless : Bool

def reversed (l : Literal) : Reversed := ⟨l.number, l.bytes.reverse, l.bytes.length, l.caseless⟩

/-- The occurrences that end behind the bytes passed, which are given last one first. -/
def endingAt (ls : List Reversed) (passed : Bytes) (stop : Nat) : List Hit :=
  ls.filterMap fun l =>
    if starts l.caseless l.bytes passed then some ⟨l.number, stop - l.length, stop⟩ else none

/-- The occurrences that end in the bytes ahead. -/
def hitsFrom (ls : List Reversed) (passed : Bytes) (pos : Nat) : Bytes → List Hit
  | [] => []
  | b :: rest =>
      match endingAt ls (b :: passed) (pos + 1) with
      | [] => hitsFrom ls (b :: passed) (pos + 1) rest
      | found => found ++ hitsFrom ls (b :: passed) (pos + 1) rest

/-- The occurrences of literals in the bytes from position `pos` on, behind the bytes passed. -/
def hits (ls : List Literal) (passed : Bytes) (pos : Nat) (bytes : Bytes) : List Hit :=
  if ls.isEmpty then [] else hitsFrom (ls.map reversed) passed pos bytes

/-- Keeps the hits that start at or behind the position that is free for their number, and moves
that position to their ends. -/
def take (free : List Nat) : List Hit → List Nat × List Hit
  | [] => (free, [])
  | h :: rest =>
      if h.start < free.getD h.number 0 then take free rest
      else
        let (free, kept) := take (free.set h.number h.stop) rest
        (free, h :: kept)

end Literal
end TrafficRules
