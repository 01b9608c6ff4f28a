import TrafficRules.Signature
import TrafficRules.Table

/-! # The corpus of signatures

`Corpus` numbers the distinct signatures of all rules: `Corpus.register` gives a signature the next
number, or the one that its canonical form has already. A number once given stays. -/

namespace TrafficRules

/-- The signatures in the order of their numbers, and the numbers by canonical form. -/
structure Corpus where
  signatures : List Signature := []
  numbers : Table String Nat := .empty
deriving Repr

namespace Corpus

/-- The number of distinct signatures, which is the next number to be given. -/
def size (c : Corpus) : Nat := c.signatures.length

/-- The number of a canonical form. -/
def lookup? (c : Corpus) (canonical : String) : Option Nat := c.numbers.get? canonical

/-- The signature with a number. -/
def get? (c : Corpus) (n : Nat) : Option Signature := c.signatures[n]?

/-- Numbers a signature. -/
def register (c : Corpus) (s : Signature) : Nat × Corpus :=
  match c.lookup? s.canonical with
  | some n => (n, c)
  | none => (c.size, ⟨c.signatures ++ [s], c.numbers.insert s.canonical c.size⟩)

/-- Numbers signatures in order. -/
def registerAll (c : Corpus) (ss : List Signature) : Corpus :=
  ss.foldl (fun c s => (c.register s).2) c

end Corpus
end TrafficRules
