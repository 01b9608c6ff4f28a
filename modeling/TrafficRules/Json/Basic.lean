import TrafficRules.Json.Node
import TrafficRules.Json.Real

/-! # JSON values

* **Numbers** are integers of 64 bits, with or without sign, or else floating-point numbers;
  a negative zero is one of these.
* **Objects** hold each key once, in ascending order; of a repeated key the last value counts.
* **Depth.** A value nests at most `depthLimit` levels.

`Json.pretty` writes a value with two blanks for each level, `Json.compact` without blanks. -/

namespace TrafficRules

inductive Json where
  | null
  | bool (b : Bool)
  | integer (n : Int)
  | real (r : Json.Real)
  | string (s : String)
  | array (items : List Json)
  | object (members : List (String × Json))

namespace Json

/-! ### From trees -/

/-- The integer of a number as written: no fraction, no exponent, no negative zero, and within
the range of 64 bits. -/
def NumberText.integer? (n : NumberText) : Option Int :=
  if n.fraction.isEmpty ∧ n.exponent.isNone then
    let value := Nat.ofDigitChars 10 n.whole 0
    if n.negative then
      if value = 0 ∨ 0x8000000000000000 < value then none else some (-(value : Int))
    else if value < UInt64.size then some (value : Int) else none
  else none

/-- The significand that digits add up to within 64 bits, and how many digits are left over. Once
a digit does not fit, no later one is taken. -/
def significand : Nat → List Char → Nat × Nat
  | n, [] => (n, 0)
  | n, d :: rest =>
      let next := 10 * n + (d.toNat - '0'.toNat)
      if next < UInt64.size then significand next rest else (n, rest.length + 1)

/-- The floating-point number of a number as written, if it is finite. Digits that do not fit the
significand of 64 bits are dropped. -/
def NumberText.real? (n : NumberText) : Option Real :=
  let (s, dropped) := significand 0 n.whole
  let (s, power) : Nat × Int :=
    if dropped = 0 then
      let (s, unused) := significand s n.fraction
      (s, (unused : Int) - n.fraction.length)
    else
      let (s, unused) := significand s n.fraction
      (s, (dropped : Int) + unused - n.fraction.length)
  match n.exponent with
  | none => Real.ofParts? n.negative s power
  | some (negative, ds) =>
      let e := Nat.ofDigitChars 10 ds 0
      if e ≥ 0x80000000 then
        if s ≠ 0 ∧ !negative then none else Real.ofParts? n.negative 0 0
      else
        Real.ofParts? n.negative s (if negative then power - e else power + e)

/-- The value of a number as written. -/
def NumberText.value? (n : NumberText) : Option Json :=
  match n.integer? with
  | some i => some (.integer i)
  | none => n.real?.map .real

/-- Puts a member in its place by key; a member with the same key is replaced. -/
def insertMember (key : String) (value : Json) : List (String × Json) → List (String × Json)
  | [] => [(key, value)]
  | (k, v) :: rest =>
      if key < k then (key, value) :: (k, v) :: rest
      else if key = k then (key, value) :: rest
      else (k, v) :: insertMember key value rest

/-- The number of levels that a value may nest. -/
def depthLimit : Nat := 127

mutual

/-- The value of a tree that nests at most `depth` levels. -/
def ofNode? (depth : Nat) : Node → Option Json
  | .null => some .null
  | .bool b => some (.bool b)
  | .number n => n.value?
  | .string s => s.map .string
  | .array items => if depth = 0 then none else (ofNodes? (depth - 1) items).map .array
  | .object members =>
      if depth = 0 then none else (ofMembers? (depth - 1) [] members).map .object

def ofNodes? (depth : Nat) : List Node → Option (List Json)
  | [] => some []
  | x :: rest => do some ((← ofNode? depth x) :: (← ofNodes? depth rest))

def ofMembers? (depth : Nat) (done : List (String × Json)) :
    List (Option String × Node) → Option (List (String × Json))
  | [] => some done
  | (k, x) :: rest => do
      ofMembers? depth (insertMember (← k) (← ofNode? depth x) done) rest

end

/-- The value of a JSON text. -/
def ofText? (s : String) : Option Json := do ofNode? depthLimit (← Node.ofText? s.toList)

/-! ### Access -/

/-- The value of a member. -/
def member? (key : String) : Json → Option Json
  | .object members => members.lookup key
  | _ => none

def string? : Json → Option String
  | .string s => some s
  | _ => none

/-- The object with the given members. -/
def ofMembers (members : List (String × Json)) : Json :=
  .object (members.foldl (fun done (k, v) => insertMember k v done) [])

/-! ### Writing -/

/-- A character inside a string. -/
def escape (c : Char) : List Char :=
  match c with
  | '"' => ['\\', '"']
  | '\\' => ['\\', '\\']
  | '\x08' => ['\\', 'b']
  | '\x0c' => ['\\', 'f']
  | '\n' => ['\\', 'n']
  | '\r' => ['\\', 'r']
  | '\t' => ['\\', 't']
  | c => if c.toNat < 0x20 then ['\\', 'u'] ++ Hex.padded 4 c.toNat else [c]

def stringText (s : String) : List Char := '"' :: s.toList.flatMap escape ++ ['"']

/-- Lists with a separator between them. -/
def separate {α : Type} (sep : List α) : List (List α) → List α
  | [] => []
  | [x] => x
  | x :: rest => x ++ sep ++ separate sep rest

mutual

/-- A value without blanks. -/
def compactText : Json → List Char
  | .null => ['n', 'u', 'l', 'l']
  | .bool b => if b then ['t', 'r', 'u', 'e'] else ['f', 'a', 'l', 's', 'e']
  | .integer n => (toString n).toList
  | .real r => r.text
  | .string s => stringText s
  | .array items => '[' :: separate [','] (compactItems items) ++ [']']
  | .object members => '\x7b' :: separate [','] (compactMembers members) ++ ['\x7d']

def compactItems : List Json → List (List Char)
  | [] => []
  | x :: rest => compactText x :: compactItems rest

def compactMembers : List (String × Json) → List (List Char)
  | [] => []
  | (k, x) :: rest => (stringText k ++ ':' :: compactText x) :: compactMembers rest

end

/-- The end of a line and the indentation of a level. -/
def newLine (level : Nat) : List Char := '\n' :: List.replicate (2 * level) ' '

mutual

/-- A value with a line for each item and member, at the given level. -/
def prettyText (level : Nat) : Json → List Char
  | .array (x :: rest) =>
      '[' :: newLine (level + 1) ++
        separate (',' :: newLine (level + 1)) (prettyItems (level + 1) (x :: rest)) ++
        newLine level ++ [']']
  | .object (m :: rest) =>
      '\x7b' :: newLine (level + 1) ++
        separate (',' :: newLine (level + 1)) (prettyMembers (level + 1) (m :: rest)) ++
        newLine level ++ ['\x7d']
  | x => compactText x

def prettyItems (level : Nat) : List Json → List (List Char)
  | [] => []
  | x :: rest => prettyText level x :: prettyItems level rest

def prettyMembers (level : Nat) : List (String × Json) → List (List Char)
  | [] => []
  | (k, x) :: rest =>
      (stringText k ++ ':' :: ' ' :: prettyText level x) :: prettyMembers level rest

end

def compact (x : Json) : String := String.ofList x.compactText

def pretty (x : Json) : String := String.ofList (x.prettyText 0)

end Json
end TrafficRules
