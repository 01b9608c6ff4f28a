import TrafficRules.Text.Hex

/-! # Sets of code points as ranges

A set of numbers is kept as a list of inclusive spans.

* **Normal form.** `Ranges.insert` and all operations built on it keep the spans in ascending
  order, apart from each other and not adjacent, so that equal sets have equal lists.
* **Two universes.** `complementBytes` works within the 256 bytes and `complementScalars` within
  the Unicode scalar values, which leave out the surrogates.
* **Gap texts.** The tables of the standard are written as words `gap` or `gap+extra` in
  hexadecimal: skip `gap` numbers, then take one and `extra` more (`Ranges.ofText`). -/

namespace TrafficRules

/-- A set of numbers as inclusive spans `(first, last)` in ascending order. -/
structure Ranges where
  spans : List (Nat × Nat)
deriving DecidableEq, Repr

namespace Ranges

def empty : Ranges := ⟨[]⟩

def single (n : Nat) : Ranges := ⟨[(n, n)]⟩

def isEmpty (r : Ranges) : Bool := r.spans.isEmpty

/-- Membership; the spans after the first one that starts behind `n` are not looked at. -/
def memSpans (n : Nat) : List (Nat × Nat) → Bool
  | [] => false
  | (lo, hi) :: rest => if n < lo then false else decide (n ≤ hi) || memSpans n rest

def contains (r : Ranges) (n : Nat) : Bool := memSpans n r.spans

/-- Adds a span, swallowing the spans that it meets or touches. -/
def insertSpan (lo hi : Nat) : List (Nat × Nat) → List (Nat × Nat)
  | [] => [(lo, hi)]
  | (a, b) :: rest =>
      if hi + 1 < a then (lo, hi) :: (a, b) :: rest
      else if b + 1 < lo then (a, b) :: insertSpan lo hi rest
      else insertSpan (min a lo) (max b hi) rest

def insert (r : Ranges) (lo hi : Nat) : Ranges := ⟨insertSpan lo hi r.spans⟩

/-- The set with the given spans, which may come in any order and overlap. -/
def ofSpans (spans : List (Nat × Nat)) : Ranges :=
  spans.foldl (fun r s => r.insert s.1 s.2) empty

/-- The union, for which the set of fewer spans is put into the other one. -/
def union (r s : Ranges) : Ranges :=
  let (few, many) := if s.spans.length ≤ r.spans.length then (s, r) else (r, s)
  few.spans.foldl (fun t x => t.insert x.1 x.2) many

/-- What is left of `next`, …, `top` outside the given spans. -/
def gaps (top : Nat) (next : Nat) : List (Nat × Nat) → List (Nat × Nat)
  | [] => if next ≤ top then [(next, top)] else []
  | (lo, hi) :: rest =>
      if next < lo then (next, lo - 1) :: gaps top (hi + 1) rest else gaps top (hi + 1) rest

/-- The bytes outside the set. -/
def complementBytes (r : Ranges) : Ranges := ⟨gaps 0xFF 0 r.spans⟩

/-- The scalar values outside the set. -/
def complementScalars (r : Ranges) : Ranges := ⟨gaps 0x10FFFF 0 (r.insert 0xD800 0xDFFF).spans⟩

/-! ### Gap texts -/

/-- The words of a text, which blanks and line ends divide. `word` is what has been read of the
present word, last character first. -/
def words (word : List Char) : List Char → List (List Char)
  | [] => if word.isEmpty then [] else [word.reverse]
  | c :: rest =>
      if c = ' ' ∨ c = '\n' then
        if word.isEmpty then words [] rest else word.reverse :: words [] rest
      else words (c :: word) rest

/-- Reads the words of a gap text. `next` is the first number not yet decided. -/
def readGaps (next : Nat) : List (List Char) → List (Nat × Nat)
  | [] => []
  | word :: rest =>
      let (gap, more) := word.span (· ≠ '+')
      let first := next + (Hex.numeral? gap).getD 0
      let last := first + (Hex.numeral? (more.drop 1)).getD 0
      (first, last) :: readGaps (last + 1) rest

/-- The set that a gap text stands for. -/
def ofText (s : String) : Ranges := ⟨readGaps 0 (words [] s.toList)⟩

end Ranges
end TrafficRules
