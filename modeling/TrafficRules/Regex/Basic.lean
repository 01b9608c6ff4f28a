import TrafficRules.Regex.Reader
import TrafficRules.Regex.Mode
import TrafficRules.Regex.Search
import TrafficRules.Regex.Size
import TrafficRules.Regex.Strings

/-! # Regular expressions over bytes

`Regex.ofText` reads an expression, applies its flags and lays out its program; a `Refusal` says
which of these fails. `Regex.find?` gives the first match from a position on: the one that starts
first and, among those, the one that the order of alternatives and the greed of repetitions
prefer. -/

namespace TrafficRules

/-- An expression that can be searched for. -/
structure Regex where
  term : Regex.Term
  program : Regex.Program
deriving Repr

namespace Regex

/-- Why an expression cannot be searched for. -/
inductive Refusal where
  /-- The text is no expression, or too deeply nested. -/
  | malformed
  /-- A class asks for what its flags do not allow, or for an unknown property. -/
  | unavailable
  /-- The program would be larger than the limit. -/
  | tooLarge
deriving DecidableEq, Repr

/-- The regular expression of a term whose program is within the limit, or that needs none. -/
def ofTerm (limit : Nat) (t : Term) : Except Refusal Regex :=
  if t.isStrings || t.programSize ≤ limit then .ok ⟨t, .ofTerm t⟩ else .error .tooLarge

/-- The regular expression with the given text, under the given flags and within a limit. -/
def ofText (mode : Mode) (limit : Nat) (text : List Char) : Except Refusal Regex :=
  match Expr.ofText? text with
  | none => .error .malformed
  | some e =>
      match e.term? mode with
      | none => .error .unavailable
      | some t => ofTerm limit t

/-- The first match at or behind position `pos`, between the bytes `before`, last one first, and
the bytes `after`. -/
def findAt? (r : Regex) (before after : Bytes) (pos : Nat) : Option Span :=
  r.program.find? before after pos

/-- The first match in a byte string. -/
def find? (r : Regex) (haystack : Bytes) : Option Span := r.findAt? [] haystack 0

/-- Whether a byte string contains a match. -/
def matches? (r : Regex) (haystack : Bytes) : Bool := (r.find? haystack).isSome

end Regex
end TrafficRules
