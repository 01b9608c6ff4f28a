import TrafficRules.Json.Basic

/-! # Documents

A `Node` holds what a JSON or a YAML text says before it is known what is asked for: a scalar with
all that it can stand for, a sequence, a mapping, or an alias of another node. `Source` reads
nodes as texts, numbers and records. The two languages differ in a few points only.

* **JSON.** A sequence may list the fields of a record in order, and a mapping with one member may
  name a choice.
* **YAML.** A scalar without any text stands for an empty record or sequence as well.

In both, a record ignores the members that it does not know, and refuses one that is repeated. -/

namespace TrafficRules

namespace Document

/-- What a scalar can stand for. -/
structure Scalar where
  text : Option String := none
  natural : Option Nat := none
  integer : Option Int := none
  bool : Option Bool := none
  /-- Whether it stands for no value where a value may be left out; none if it contradicts itself. -/
  absent : Option Bool := some false
  /-- It stands for a record or a sequence without any member. -/
  blank : Bool := false
  /-- The choice that it names. -/
  choice : Option String := none
deriving DecidableEq, Repr

/-- A part of a document. A key that is no text is none; an alias gives the place of its node
among those that have a name. -/
inductive Node where
  | scalar (s : Scalar)
  | sequence (items : List Node)
  | mapping (members : List (Option String × Node))
  | alias (target : Nat)

/-- The members of a record that are known to it. -/
abbrev Fields := List (String × Node)

namespace Fields

/-- Reads a field that must be there. -/
def required {α : Type} (fields : Fields) (name : String) (read : Node → Option α) : Option α :=
  (fields.lookup name).bind read

/-- Reads a field that may be left out. -/
def optional {α : Type} (fields : Fields) (name : String) (read : Node → Option α)
    (fallback : α) : Option α :=
  match fields.lookup name with
  | none => some fallback
  | some x => read x

end Fields

/-- The language of a text. -/
inductive Language where
  | json
  | yaml
deriving DecidableEq, Repr

end Document

open Document

/-- The text that nodes come from: its language, and the nodes that have a name. -/
structure Source where
  language : Language
  named : List Document.Node := []

namespace Source

/-- The node that is meant. -/
def resolve (src : Source) : Document.Node → Document.Node
  | .alias n => src.named.getD n (.scalar {})
  | x => x

def scalar? (src : Source) (x : Document.Node) : Option Scalar :=
  match src.resolve x with
  | .scalar s => some s
  | _ => none

def text? (src : Source) (x : Document.Node) : Option String := (src.scalar? x).bind Scalar.text

def bool? (src : Source) (x : Document.Node) : Option Bool := (src.scalar? x).bind Scalar.bool

/-- A natural number below a bound. -/
def natural? (src : Source) (bound : Nat) (x : Document.Node) : Option Nat := do
  let n ← (← src.scalar? x).natural
  if n < bound then some n else none

def uint16? (src : Source) (x : Document.Node) : Option UInt16 :=
  (src.natural? UInt16.size x).map UInt16.ofNat

def uint32? (src : Source) (x : Document.Node) : Option UInt32 :=
  (src.natural? UInt32.size x).map UInt32.ofNat

def uint64? (src : Source) (x : Document.Node) : Option UInt64 :=
  (src.natural? UInt64.size x).map UInt64.ofNat

def int64? (src : Source) (x : Document.Node) : Option Int64 := do
  let n ← (← src.scalar? x).integer
  if Int64.minValue.toInt ≤ n ∧ n ≤ Int64.maxValue.toInt then some (Int64.ofInt n) else none

/-- A value that may be left out. -/
def option? {α : Type} (src : Source) (read : Document.Node → Option α) (x : Document.Node) :
    Option (Option α) :=
  match src.resolve x with
  | .scalar s => do if (← s.absent) then some none else (read x).map some
  | _ => (read x).map some

/-- The items of a sequence. -/
def sequence? {α : Type} (src : Source) (read : Document.Node → Option α) (x : Document.Node) :
    Option (List α) :=
  match src.resolve x with
  | .sequence items => items.mapM read
  | .scalar s => if s.blank then some [] else none
  | _ => none

/-- The choice that a node names. -/
def choice? (src : Source) (x : Document.Node) : Option String :=
  match src.resolve x with
  | .scalar s => s.choice
  | .mapping [(key, value)] =>
      match src.language, src.scalar? value with
      | .json, some s => if s.absent = some true then key else none
      | _, _ => none
  | _ => none

/-- The known members of a mapping; none if a key is no text or a known key is repeated. -/
def known? (names : List String) : List (Option String × Document.Node) → Option Fields
  | [] => some []
  | (key, value) :: rest => do
      let key ← key
      let fields ← known? names rest
      if key ∉ names then some fields
      else if (fields.lookup key).isSome then none
      else some ((key, value) :: fields)

/-- The fields of a record with the given names. -/
def fields? (src : Source) (names : List String) (x : Document.Node) : Option Fields :=
  match src.resolve x with
  | .mapping members => known? names members
  | .sequence items =>
      if src.language = .json ∧ items.length ≤ names.length then some (names.zip items) else none
  | .scalar s => if s.blank then some [] else none
  | .alias _ => none

end Source

/-! ### From JSON -/

namespace Json

/-- What an integer can stand for. -/
def integerScalar (n : Int) : Scalar where
  natural := n.toNat?
  integer := some n

mutual

/-- The document of a value. -/
def document : Json → Document.Node
  | .null => .scalar { absent := some true }
  | .bool b => .scalar { bool := some b }
  | .integer n => .scalar (integerScalar n)
  | .real _ => .scalar {}
  | .string s => .scalar { text := some s, choice := some s }
  | .array items => .sequence (documents items)
  | .object members => .mapping (documentMembers members)

def documents : List Json → List Document.Node
  | [] => []
  | x :: rest => x.document :: documents rest

def documentMembers : List (String × Json) → List (Option String × Document.Node)
  | [] => []
  | (k, x) :: rest => (some k, x.document) :: documentMembers rest

end

mutual

/-- The document of a tree. -/
def Node.document : Json.Node → Document.Node
  | .null => .scalar { absent := some true }
  | .bool b => .scalar { bool := some b }
  | .number n => .scalar ((n.integer?.map integerScalar).getD {})
  | .string s => .scalar { text := s, choice := s }
  | .array items => .sequence (Node.documents items)
  | .object members => .mapping (Node.documentMembers members)

def Node.documents : List Json.Node → List Document.Node
  | [] => []
  | x :: rest => x.document :: Node.documents rest

def Node.documentMembers :
    List (Option String × Json.Node) → List (Option String × Document.Node)
  | [] => []
  | (k, x) :: rest => (k, x.document) :: Node.documentMembers rest

end

end Json
end TrafficRules
