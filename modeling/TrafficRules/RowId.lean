import TrafficRules.Text.Hex

/-! # Row identifiers

A rule is known by a row identifier: the second of its creation and a sequence number.

* **Order.** Identifiers compare by second first and by sequence next, which is the order of
  the 96-bit numbers `RowId.toNat`; a rule created later has the greater identifier.
* **Text.** An identifier is written as that number in 24 lowercase hexadecimal digits
  (`RowId.text`) and read back from exactly 24 digits of either case (`RowId.ofText?`).
* **Generation.** A `RowId.Generator` remembers the greatest identifier it has handed out or
  seen. `Generator.next` never steps back behind it, whatever the clock says. -/

namespace TrafficRules

/-- Identifies a rule by the second of its creation and a sequence number. -/
structure RowId where
  timestamp : UInt32
  sequence : UInt64
deriving DecidableEq, Repr

namespace RowId

/-- The all-zero identifier, which no rule carries. -/
def zero : RowId := ⟨0, 0⟩

/-- The identifier as one 96-bit number, the timestamp above the sequence. -/
def toNat (id : RowId) : Nat := id.timestamp.toNat * UInt64.size + id.sequence.toNat

/-- Splits a 96-bit number into timestamp and sequence. -/
def ofNat (n : Nat) : RowId := ⟨UInt32.ofNat (n / UInt64.size), UInt64.ofNat (n % UInt64.size)⟩

instance : LT RowId := ⟨fun a b => a.toNat < b.toNat⟩
instance : LE RowId := ⟨fun a b => a.toNat ≤ b.toNat⟩
instance (a b : RowId) : Decidable (a < b) := inferInstanceAs (Decidable (a.toNat < b.toNat))
instance (a b : RowId) : Decidable (a ≤ b) := inferInstanceAs (Decidable (a.toNat ≤ b.toNat))

/-! ### Text form -/

/-- The 24 digits of an identifier: eight for the timestamp, sixteen for the sequence. -/
def text (id : RowId) : String := String.ofList (Hex.padded 24 id.toNat)

/-- Reads exactly 24 hexadecimal digits; no sign, blank or other character is accepted. -/
def ofText? (s : String) : Option RowId :=
  if s.toList.length = 24 then (Hex.numeral? s.toList).map ofNat else none

/-! ### Generation -/

/-- Hands out identifiers; `last` is the greatest one handed out or observed so far. -/
structure Generator where
  last : RowId := zero
deriving DecidableEq, Repr

namespace Generator

/-- One second later, held at the greatest timestamp. -/
def secondAfter (t : UInt32) : UInt32 := if t = 0xFFFFFFFF then t else t + 1

/-- The identifier for the given second. The timestamp never falls behind the last one and the
sequence counts on; where the sequence wraps within one second, the next second is borrowed. -/
def fresh (g : Generator) (now : UInt32) : RowId :=
  let id : RowId := ⟨max now g.last.timestamp, g.last.sequence + 1⟩
  if id ≤ g.last then ⟨secondAfter g.last.timestamp, 0⟩ else id

/-- Hands out the identifier for the given second. -/
def next (g : Generator) (now : UInt32) : RowId × Generator :=
  (g.fresh now, ⟨g.fresh now⟩)

/-- Takes note of an identifier made elsewhere. -/
def observe (g : Generator) (id : RowId) : Generator :=
  if g.last < id then ⟨id⟩ else g

end Generator
end RowId
end TrafficRules
