import TrafficRules.Json.Token

/-! # Numbers with a fraction

A number that is no integer is a binary floating-point number of 64 bits: a sign and the bits of a
magnitude. The bits of magnitudes have the order of the magnitudes, and `Quotient.round` gives those
of the magnitude nearest to a fraction, or more than `infinite` has where that is beyond the finite
ones.

* **Writing.** `Real.text` writes the fewest digits that read back as the same number, the nearest
  of those: positionally from `1e-5` up to sixteen digits before the point, else with an
  exponent.
* **Reading.** `Real.ofParts?` takes a significand and a power of ten. It rounds once when the
  significand is converted and once more for each power that it is scaled by; a number beyond the
  finite ones is refused. -/

namespace TrafficRules.Json

/-! ### Fractions -/

/-- A fraction of two natural numbers. -/
structure Quotient where
  num : Nat
  den : Nat

namespace Quotient

/-- The quotient times a power of the base. -/
def scale (base : Nat) (q : Quotient) (e : Int) : Quotient :=
  ⟨q.num * base.pow e.toNat, q.den * base.pow (-e).toNat⟩

def mul (p q : Quotient) : Quotient := ⟨p.num * q.num, p.den * q.den⟩

def div (p q : Quotient) : Quotient := ⟨p.num * q.den, p.den * q.num⟩

/-- The nearest integer, the even one of two. -/
def nearest (q : Quotient) : Nat :=
  let below := q.num / q.den
  let remainder := q.num % q.den
  if 2 * remainder < q.den || (2 * remainder == q.den && below % 2 == 0) then below else below + 1

/-- The number of digits of `n`. -/
def digitCount (base n : Nat) : Nat := (Nat.toDigits base n).length

/-- The power of the base with which a quotient starts. -/
def leadingPower (base : Nat) (q : Quotient) : Int :=
  let guess : Int := (digitCount base q.num : Int) - digitCount base q.den
  let scaled := q.scale base (-guess)
  if scaled.num < scaled.den then guess - 1 else guess

end Quotient

/-! ### Magnitudes -/

/-- The number of magnitudes of one exponent. -/
def fractions : Nat := 0x10000000000000

/-- The first bits behind those of the finite magnitudes. -/
def infinite : Nat := 0x7FF0000000000000

/-- The integer and the power of two whose product is the magnitude with the given bits. -/
def magnitude (bits : Nat) : Nat × Int :=
  let fraction := bits % fractions
  let biased := bits / fractions
  if biased = 0 then (fraction, -1074) else (fractions + fraction, (biased : Int) - 1075)

/-- The magnitude with the given bits. -/
def Quotient.ofBits (bits : Nat) : Quotient :=
  let (m, e) := magnitude bits
  scale 2 ⟨m, 1⟩ e

/-- The bits of the magnitude nearest to a quotient, the even one of two. -/
def Quotient.round (q : Quotient) : Nat :=
  if q.num = 0 then 0
  else
    let e := max (q.leadingPower 2 - 52) (-1074)
    (q.scale 2 (-e)).nearest + (e + 1074).toNat * fractions

/-- A finite floating-point number. -/
structure Real where
  negative : Bool
  /-- The bits of the magnitude. -/
  bits : Nat
  finite : bits < infinite
deriving DecidableEq, Repr

namespace Real

/-! ### Writing -/

/-- Whether an integer times a power of ten lies between two bounds, both included if `closed`. -/
def inside (low high : Quotient) (closed : Bool) (n : Nat) (e : Int) : Bool :=
  let l := low.scale 10 (-e)
  let h := high.scale 10 (-e)
  if closed then l.num ≤ n * l.den && n * h.den ≤ h.num
  else l.num < n * l.den && n * h.den < h.num

/-- The shortest digits at `more` further lengths from `count` on, with their power of ten. The
bounds `low` and `high` enclose what reads back as the number. -/
def shortestFrom (value low high : Quotient) (closed : Bool) (top : Int) :
    Nat → Nat → Nat × Int
  | 0, count => let e := top + 1 - count; let q := value.scale 10 (-e); (q.num / q.den, e)
  | more + 1, count =>
      let e := top + 1 - count
      let q := value.scale 10 (-e)
      let below := q.num / q.den
      if inside low high closed q.nearest e then (q.nearest, e)
      else if inside low high closed below e then (below, e)
      else if inside low high closed (below + 1) e then (below + 1, e)
      else shortestFrom value low high closed top more (count + 1)

/-- Moves trailing zeros of the digits into the power of ten, at most `fuel` of them. -/
def stripZeros : Nat → Nat × Int → Nat × Int
  | 0, x => x
  | fuel + 1, (n, e) => if n % 10 = 0 then stripZeros fuel (n / 10, e + 1) else (n, e)

/-- The digits of a magnitude that is not zero, without trailing zeros, and their power of ten. -/
def shortest (bits : Nat) : Nat × Int :=
  let (m, e) := magnitude bits
  let value := Quotient.scale 2 ⟨4 * m, 1⟩ (e - 2)
  let high := Quotient.scale 2 ⟨4 * m + 2, 1⟩ (e - 2)
  let gap := if m = fractions ∧ e > -1074 then 1 else 2
  let low := Quotient.scale 2 ⟨4 * m - gap, 1⟩ (e - 2)
  stripZeros 17 (shortestFrom value low high (m % 2 == 0) (value.leadingPower 10) 17 1)

/-- Digits with a power of ten as a number with the point or the exponent in its place. -/
def place (negative : Bool) (digits : List Char) (power : Int) : NumberText :=
  let point := digits.length + power
  if 0 ≤ power ∧ point ≤ 16 then
    { negative, whole := digits ++ List.replicate power.toNat '0', fraction := ['0'] }
  else if 0 < point ∧ point ≤ 16 then
    { negative, whole := digits.take point.toNat, fraction := digits.drop point.toNat }
  else if -5 < point ∧ point ≤ 0 then
    { negative, whole := ['0'], fraction := List.replicate (-point).toNat '0' ++ digits }
  else
    { negative, whole := digits.take 1, fraction := digits.drop 1,
      exponent := some (decide (point ≤ 0), Nat.toDigits 10 (point - 1).natAbs) }

/-- The number as it is written. -/
def written (r : Real) : NumberText :=
  if r.bits = 0 then { negative := r.negative, whole := ['0'], fraction := ['0'] }
  else
    let (n, power) := shortest r.bits
    place r.negative (Nat.toDigits 10 n) power

def text (r : Real) : List Char := r.written.text

/-! ### Reading -/

/-- The power of ten that a single scaling can take. -/
def maxPower : Nat := 308

/-- The bits of a power of ten. -/
def powerOfTen (power : Nat) : Nat := Quotient.round ⟨Nat.pow 10 power, 1⟩

/-- The magnitude divided by a power of ten. -/
def divide (bits power : Nat) : Nat :=
  ((Quotient.ofBits bits).div (.ofBits (powerOfTen power))).round

/-- Scales a magnitude down by powers of ten, at most `fuel` times. -/
def scaleDown : Nat → Nat → Nat → Nat
  | 0, bits, _ => bits
  | fuel + 1, bits, power =>
      if power ≤ maxPower then divide bits power
      else if bits = 0 then bits
      else scaleDown fuel (divide bits maxPower) (power - maxPower)

/-- The number with the given significand and power of ten, if it is finite. -/
def ofParts? (negative : Bool) (significand : Nat) (power : Int) : Option Real :=
  let bits := Quotient.round ⟨significand, 1⟩
  let scaled :=
    if power < 0 then some (scaleDown 4 bits (-power).toNat)
    else if power ≤ maxPower then
      some ((Quotient.ofBits bits).mul (.ofBits (powerOfTen power.toNat))).round
    else if bits = 0 then some bits
    else none
  scaled.bind fun bits => if finite : bits < infinite then some ⟨negative, bits, finite⟩ else none

end Real
end TrafficRules.Json
