import TrafficRules.Fault

/-! # Patterns

A pattern is one regular expression of a rule with the flags to read it under, how often it has to
occur, and on which side of a connection. Zero bounds are unset. -/

namespace TrafficRules

/-- How a pattern is matched; each flag is independent of the others. -/
structure Flags where
  caseless : Bool := false
  /-- A dot matches line ends too. -/
  dotAll : Bool := false
  /-- `^` and `$` match at line ends. -/
  multiLine : Bool := false
  /-- At most one match of a stream is reported. -/
  singleMatch : Bool := false
  /-- The input is read as UTF-8. -/
  utf8 : Bool := false
  /-- Classes by Unicode property are allowed. -/
  unicodeProperty : Bool := false
deriving DecidableEq, Repr

namespace Flags

/-- Unicode mode is on if either flag asks for it. -/
def unicode (f : Flags) : Bool := f.utf8 || f.unicodeProperty

/-- The flags that an expression is read under. -/
def mode (f : Flags) : Regex.Mode where
  caseless := f.caseless
  dotAll := f.dotAll
  multiLine := f.multiLine
  unicode := f.unicode

end Flags

/-- The side of a connection that a pattern looks at. -/
inductive Direction where
  | both
  /-- Data that the client sends. -/
  | toServer
  /-- Data that the server sends. -/
  | toClient
deriving DecidableEq, Repr

namespace Direction

/-- The direction with the given number. -/
def ofNat? : Nat → Option Direction
  | 0 => some .both
  | 1 => some .toServer
  | 2 => some .toClient
  | _ => none

def toNat : Direction → Nat
  | .both => 0
  | .toServer => 1
  | .toClient => 2

def name : Direction → String
  | .both => "both"
  | .toServer => "to_server"
  | .toClient => "to_client"

/-- What is said of a number that is no direction. -/
def unknown (n : Nat) : String := "invalid direction " ++ toString n ++ ", expected 0, 1 or 2"

end Direction

/-- A regular expression of a rule. -/
structure Pattern where
  regex : String
  flags : Flags := {}
  minOccurrences : UInt32 := 0
  maxOccurrences : UInt32 := 0
  direction : Direction := .both
  /-- The number of the pattern in the corpus, once it is registered. -/
  corpusId : Option Nat := none
deriving DecidableEq, Repr

namespace Pattern

/-- The constraints on the fields; the expression itself is not read. -/
def validate (p : Pattern) : Except Invalid Unit :=
  if p.regex = "" then .error .emptyRegex
  else if p.maxOccurrences ≠ 0 ∧ p.maxOccurrences < p.minOccurrences then
    .error (.occurrences p.regex p.maxOccurrences p.minOccurrences)
  else .ok ()

end Pattern
end TrafficRules
