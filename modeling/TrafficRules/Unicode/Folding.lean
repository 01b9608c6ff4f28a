import TrafficRules.Unicode.Ranges
import TrafficRules.Unicode.CaseFolding

/-! # Sets closed under case

`Ranges.foldScalars` adds to a set of scalar values all that differ from a member in case only,
by the simple folding of the standard; `Ranges.foldBytes` does so for ASCII letters alone. -/

namespace TrafficRules.Unicode

/-- Divides words into rows: a word that ends in a semicolon ends its row. `row` is what has been
read of the present row, last number first. -/
def readRows (row : List Nat) : List (List Char) → List (List Nat)
  | [] => [row.reverse]
  | word :: rest =>
      let n := (Hex.numeral? (word.takeWhile (· ≠ ';'))).getD 0
      if word.getLast? = some ';' then (n :: row).reverse :: readRows [] rest
      else readRows (n :: row) rest

/-- The classes of scalar values that differ in case only, those with one member left out. -/
def foldingClasses : List (List Nat) := readRows [] (Ranges.words [] foldingText.toList)

end TrafficRules.Unicode

namespace TrafficRules.Ranges

/-- Adds all members of the classes that the set meets. -/
def closeUnder (classes : List (List Nat)) (r : Ranges) : Ranges :=
  classes.foldl (fun s row =>
    if row.any r.contains then row.foldl (fun s n => s.insert n n) s else s) r

/-- Closes a set of scalar values under case. -/
def foldScalars (r : Ranges) : Ranges := r.closeUnder Unicode.foldingClasses

/-- Closes a set of bytes under ASCII case. -/
def foldBytes (r : Ranges) : Ranges :=
  r.closeUnder ((List.range 26).map fun i => [65 + i, 97 + i])

end TrafficRules.Ranges
