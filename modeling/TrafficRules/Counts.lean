import TrafficRules.Pattern
import TrafficRules.Table

/-! # Match counts

How often each signature has matched, by its number. `DirectionalCounts` counts the two sides of a
connection apart. A count that has reached its greatest value cannot grow; the sum over both sides
stays there instead. -/

namespace TrafficRules

/-- The number of matches by signature number. -/
abbrev Counts := Table Nat UInt32

namespace Counts

/-- The count of a signature; zero if it never matched. -/
def of (c : Counts) (number : Nat) : UInt32 := (c.get? number).getD 0

/-- Counts one match more. -/
def increment (c : Counts) (number : Nat) : Except Fault Counts :=
  if c.of number = 0xFFFFFFFF then .error .outOfRange
  else .ok (c.insert number (c.of number + 1))

end Counts

/-- The sum of two counts, held at the greatest value. -/
def saturatingSum (a b : UInt32) : UInt32 :=
  if a.toNat + b.toNat < UInt32.size then a + b else 0xFFFFFFFF

/-- The counts of what the client and what the server has sent. -/
structure DirectionalCounts where
  client : Counts := .empty
  server : Counts := .empty
deriving DecidableEq, Repr

namespace DirectionalCounts

/-- Counts one match more in a direction; both directions together have no count of their own. -/
def record (c : DirectionalCounts) (d : Direction) (number : Nat) :
    Except Fault DirectionalCounts :=
  match d with
  | .toServer => do return { c with client := ← c.client.increment number }
  | .toClient => do return { c with server := ← c.server.increment number }
  | .both => .ok c

/-- The count of a signature in a direction. -/
def count (c : DirectionalCounts) (number : Nat) : Direction → UInt32
  | .toServer => c.client.of number
  | .toClient => c.server.of number
  | .both => saturatingSum (c.client.of number) (c.server.of number)

def isEmpty (c : DirectionalCounts) : Bool := c.client.isEmpty && c.server.isEmpty

end DirectionalCounts
end TrafficRules
