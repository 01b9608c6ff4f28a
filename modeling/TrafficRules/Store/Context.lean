import TrafficRules.Fault

/-! # Write contexts

A write can be cancelled from outside, or come too late. A `WriteContext` says after how many
checks either happens; a write that makes a further check then fails. Cancellation is what is
reported if both are the case. -/

namespace TrafficRules

structure WriteContext where
  /-- The number of checks that pass before the write is cancelled, if it is. -/
  cancelledAfter : Option Nat := none
  /-- The number of checks that pass before the deadline, if there is one. -/
  deadlineAfter : Option Nat := none
deriving DecidableEq, Repr

namespace WriteContext

/-- A context without cancellation and deadline. -/
def background : WriteContext := {}

/-- Check number `n` of a write, counted from zero. -/
def check (c : WriteContext) (n : Nat) : Except Fault Unit :=
  if c.cancelledAfter.any (· ≤ n) then .error (.store .cancelled)
  else if c.deadlineAfter.any (· ≤ n) then .error (.store .deadlineExceeded)
  else .ok ()

def hasDeadline (c : WriteContext) : Bool := c.deadlineAfter.isSome

end WriteContext
end TrafficRules
