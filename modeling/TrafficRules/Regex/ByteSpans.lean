import TrafficRules.Unicode.Ranges

/-! # Scalar values as spans of bytes

The UTF-8 forms of a set of scalar values are listed as rows (`Ranges.byteRows`). A row has one span
for each byte and stands for all forms whose bytes lie in its spans.

* **Cutting.** Numbers of one length are cut at the multiples of powers of 64, so that all digits
  behind one that varies take every value (`byteRowsFrom`).
* **Order.** The rows are ascending, and rows that share their first spans stand together. -/

namespace TrafficRules

/-- Spans of bytes, one behind the other. -/
abbrev ByteRow := List (Nat × Nat)

/-- The rows of the numbers from `lo` to `hi`, which take a first byte counted from `base` and the
given number of continuation bytes. -/
def byteRowsFrom (base : Nat) : Nat → Nat → Nat → List ByteRow
  | 0, lo, hi => [[(base + lo, base + hi)]]
  | more + 1, lo, hi =>
      let unit := Nat.pow 64 (more + 1)
      let under (a b : Nat) (rows : List ByteRow) : List ByteRow :=
        rows.map ((base + a, base + b) :: ·)
      let (first, low) := (lo / unit, lo % unit)
      let (last, high) := (hi / unit, hi % unit)
      if first = last then under first first (byteRowsFrom 0x80 more low high)
      else
        let opening :=
          if low = 0 then [] else under first first (byteRowsFrom 0x80 more low (unit - 1))
        let closing :=
          if high + 1 = unit then [] else under last last (byteRowsFrom 0x80 more 0 high)
        let a := if low = 0 then first else first + 1
        let b := if high + 1 = unit then last else last - 1
        opening ++ (if a ≤ b then under a b (byteRowsFrom 0x80 more 0 (unit - 1)) else []) ++
          closing

/-- The scalar values of one length, with the base of the first byte and the number of continuation
bytes. The surrogates divide those of three bytes. -/
def byteLengths : List ((Nat × Nat) × Nat × Nat) :=
  [((0, 0x7F), 0, 0), ((0x80, 0x7FF), 0xC0, 1), ((0x800, 0xD7FF), 0xE0, 2),
    ((0xE000, 0xFFFF), 0xE0, 2), ((0x10000, 0x10FFFF), 0xF0, 3)]

/-- The rows of the UTF-8 forms of a set of scalar values. -/
def Ranges.byteRows (r : Ranges) : List ByteRow :=
  r.spans.flatMap fun (lo, hi) => byteLengths.flatMap fun ((a, b), base, more) =>
    if max a lo ≤ min b hi then byteRowsFrom base more (max a lo) (min b hi) else []

namespace ByteRow

/-- Rows by their first spans, each with what is left of the rows that share it. -/
def byFirst : List ByteRow → List ((Nat × Nat) × List ByteRow)
  | [] => []
  | [] :: rest => byFirst rest
  | (span :: row) :: rest =>
      match byFirst rest with
      | (next, rows) :: more =>
          if span = next then (span, row :: rows) :: more
          else (span, [row]) :: (next, rows) :: more
      | [] => [(span, [row])]

/-- The nodes of the tree of rows: at each of them the rows that go on from there. -/
def nodes : Nat → List ByteRow → List (List ByteRow)
  | 0, _ => []
  | depth + 1, rows =>
      match byFirst rows with
      | [] => []
      | groups => rows :: groups.flatMap fun g => nodes depth g.2

/-- The most bytes of a form. -/
def mostBytes : Nat := 4

end ByteRow
end TrafficRules
