/-! # Hexadecimal numerals

Numbers written with sixteen digits: `digit?` reads one digit of either case, `numeral?` a
whole run of digits, and `padded width n` writes `n` in exactly `width` lowercase digits,
the most significant first. -/

namespace TrafficRules.Hex

/-- The value of an ASCII hexadecimal digit, in either case. -/
def digit? (c : Char) : Option Nat :=
  if '0' ≤ c ∧ c ≤ '9' then some (c.toNat - 48)
  else if 'a' ≤ c ∧ c ≤ 'f' then some (c.toNat - 87)
  else if 'A' ≤ c ∧ c ≤ 'F' then some (c.toNat - 55)
  else none

/-- The lowercase digit of a value below sixteen. -/
def digit (n : Nat) : Char :=
  Char.ofNat (if n < 10 then n + 48 else n + 87)

/-- Reads on from the number `acc`; `none` at the first character that is no digit. -/
def numeralFrom? (acc : Nat) : List Char → Option Nat
  | [] => some acc
  | c :: rest => do
      let d ← digit? c
      numeralFrom? (acc * 16 + d) rest

/-- The number that a run of digits denotes; the empty run denotes zero. -/
def numeral? (cs : List Char) : Option Nat := numeralFrom? 0 cs

/-- The last `width` digits of `n`, most significant first. -/
def padded : Nat → Nat → List Char
  | 0, _ => []
  | width + 1, n => padded width (n / 16) ++ [digit (n % 16)]

/-- As few digits as `n` needs, at least one. -/
def minimal (n : Nat) : List Char :=
  (Nat.toDigits 16 n)

/-! ### Byte strings -/

/-- Two digits for each byte. -/
def ofBytes (bytes : List UInt8) : List Char :=
  bytes.flatMap fun b => padded 2 b.toNat

/-- Reads two digits for each byte. -/
def bytes? : List Char → Option (List UInt8)
  | [] => some []
  | [_] => none
  | c :: d :: rest => do
      let high ← digit? c
      let low ← digit? d
      let others ← bytes? rest
      some (UInt8.ofNat (high * 16 + low) :: others)

end TrafficRules.Hex
