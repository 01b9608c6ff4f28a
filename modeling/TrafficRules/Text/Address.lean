import TrafficRules.Text.Hex

/-! # Network addresses

`Address` is an IPv4 or an IPv6 address.

* **Reading.** `Address.ofText?` takes four decimal numbers below 256 without leading zeros, or
  up to eight groups of at most four hexadecimal digits. One run of groups may be left out as
  `::`, and the last two groups may be written as an IPv4 address.
* **Writing.** `Address.text` writes the groups without leading zeros and leaves out the first
  longest run of at least two zero groups; an IPv4 address inside IPv6 keeps its dots. -/

namespace TrafficRules

/-- An IPv4 address as one number, or an IPv6 address as two halves. -/
inductive Address where
  | v4 (value : UInt32)
  | v6 (high low : UInt64)
deriving DecidableEq, Repr

namespace Address

/-! ### Reading -/

/-- Reads up to `most` digits of the given base. A further digit makes the number malformed. -/
def digits? (digit? : Char → Option Nat) (most : Nat) : List Char → Option (List Nat × List Char)
  | [] => some ([], [])
  | c :: rest =>
      match digit? c, most with
      | none, _ => some ([], c :: rest)
      | some _, 0 => none
      | some d, most + 1 => (digits? digit? most rest).map fun (ds, more) => (d :: ds, more)

def decimalDigit? (c : Char) : Option Nat := if c.isDigit then some (c.toNat - 48) else none

/-- Reads a number below 256 without leading zeros. -/
def octet? (s : List Char) : Option (Nat × List Char) := do
  let (ds, rest) ← digits? decimalDigit? 3 s
  let n := ds.foldl (fun n d => n * 10 + d) 0
  if ds.isEmpty || (ds.length > 1 && ds.head? == some 0) || n > 255 then none else some (n, rest)

/-- Reads a given character. -/
def sign? (c : Char) : List Char → Option (List Char)
  | d :: rest => if c = d then some rest else none
  | [] => none

/-- Reads four octets with dots between them. -/
def octets? (s : List Char) : Option (Nat × List Char) := do
  let (a, s) ← octet? s
  let (b, s) ← octet? (← sign? '.' s)
  let (c, s) ← octet? (← sign? '.' s)
  let (d, s) ← octet? (← sign? '.' s)
  some (((a * 256 + b) * 256 + c) * 256 + d, s)

/-- Reads a group of one to four hexadecimal digits. -/
def group? (s : List Char) : Option (Nat × List Char) := do
  let (ds, rest) ← digits? Hex.digit? 4 s
  if ds.isEmpty then none else some (ds.foldl (fun n d => n * 16 + d) 0, rest)

/-- Reads groups with colons between them, at most `room` of them, and whether the last two came
as an IPv4 address. `first` tells that no colon is due. -/
def groups (first : Bool) : Nat → List Char → List Nat × Bool × List Char
  | 0, s => ([], false, s)
  | room + 1, s =>
      match (if first then some s else sign? ':' s) with
      | none => ([], false, s)
      | some t =>
          match (if room = 0 then none else octets? t) with
          | some (n, rest) => ([n / 65536, n % 65536], true, rest)
          | none =>
              match group? t with
              | none => ([], false, s)
              | some (g, rest) =>
                  let (gs, dotted, rest) := groups false room rest
                  (g :: gs, dotted, rest)

/-- The number with the given digits of 16 bits. -/
def join (gs : List Nat) : Nat := gs.foldl (fun n g => n * 65536 + g) 0

/-- Reads an IPv6 address up to the end of the text. -/
def v6? (s : List Char) : Option Address := do
  let (head, dotted, rest) := groups true 8 s
  let all ←
    if head.length = 8 then if rest.isEmpty then some head else none
    else if dotted then none
    else do
      let rest ← sign? ':' (← sign? ':' rest)
      let (tail, _, rest) := groups true (7 - head.length) rest
      if rest.isEmpty then
        some (head ++ List.replicate (8 - head.length - tail.length) 0 ++ tail)
      else none
  some (.v6 (UInt64.ofNat (join (all.take 4))) (UInt64.ofNat (join (all.drop 4))))

/-- Reads an IPv4 address up to the end of the text. -/
def v4? (s : List Char) : Option Address :=
  match octets? s with
  | some (n, []) => some (.v4 (UInt32.ofNat n))
  | _ => none

def ofText? (s : String) : Option Address := v4? s.toList <|> v6? s.toList

/-! ### Writing -/

/-- The digits of `n` in base `base`, `count` of them. -/
def split (base : Nat) : Nat → Nat → List Nat
  | 0, _ => []
  | count + 1, n => split base count (n / base) ++ [n % base]

def v4Text (n : Nat) : String := ".".intercalate ((split 256 4 n).map toString)

def groupsText (gs : List Nat) : String :=
  ":".intercalate (gs.map fun g => String.ofList (Hex.minimal g))

/-- The length of the run of zeros at the start. -/
def zeros (gs : List Nat) : Nat := (gs.takeWhile (· = 0)).length

/-- The length of the longest run of zeros. -/
def longestZeros : List Nat → Nat
  | [] => 0
  | g :: rest => max (zeros (g :: rest)) (longestZeros rest)

/-- The groups before the first run of `n` zeros, and the groups behind it. -/
def cutZeros (n : Nat) : List Nat → List Nat × List Nat
  | [] => ([], [])
  | g :: rest =>
      if zeros (g :: rest) = n then ([], (g :: rest).drop n)
      else
        let (before, after) := cutZeros n rest
        (g :: before, after)

def v6Text (gs : List Nat) : String :=
  if gs.take 6 = [0, 0, 0, 0, 0, 65535] then "::ffff:" ++ v4Text (join (gs.drop 6))
  else
    let n := longestZeros gs
    if n < 2 then groupsText gs
    else
      let (before, after) := cutZeros n gs
      groupsText before ++ "::" ++ groupsText after

def text : Address → String
  | .v4 n => v4Text n.toNat
  | .v6 high low => v6Text (split 65536 4 high.toNat ++ split 65536 4 low.toNat)

end Address
end TrafficRules
