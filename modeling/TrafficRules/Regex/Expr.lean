/-! # Regular expressions as written

`Expr` is the tree that a regular expression's text stands for, before its flags are applied.

* **Flags.** `(?i-u)` and `(?i-u:…)` hold a `FlagChange`: what is set, what is cleared, and
  what is left alone. A change without a group lasts until the end of the group around it.
* **Classes.** Bracketed classes nest and combine by union, intersection, difference and
  symmetric difference (`ClassSet`).
* **Depth.** `Expr.depth` counts the levels that a reader of nested text goes through; an
  expression is accepted up to `depthLimit` levels. -/

namespace TrafficRules.Regex

/-- Flags that a `(?…)` group sets (`some true`), clears (`some false`) or leaves alone. -/
structure FlagChange where
  caseless : Option Bool := none
  multiLine : Option Bool := none
  dotAll : Option Bool := none
  swapGreed : Option Bool := none
  unicode : Option Bool := none
  crlf : Option Bool := none
  ignoreBlanks : Option Bool := none
deriving DecidableEq, Repr

/-- A character that stands for itself. `hexPair` marks the form `\xNN`, which is a byte where
Unicode mode is off. -/
structure Literal where
  char : Char
  hexPair : Bool := false
deriving DecidableEq, Repr

/-- Conditions on a position that take no input. -/
inductive Assertion where
  | lineStart | lineEnd | textStart | textEnd
  | wordBoundary | notWordBoundary | wordStart | wordEnd | wordStartHalf | wordEndHalf
deriving DecidableEq, Repr

/-- The classes `\d`, `\s` and `\w`. -/
inductive Shorthand where
  | digit | space | word
deriving DecidableEq, Repr

/-- The classes `[:alpha:]` and its like. -/
inductive PosixClass where
  | alnum | alpha | ascii | blank | cntrl | digit | graph | lower | print | punct | space
  | upper | word | xdigit
deriving DecidableEq, Repr

/-- What `\p` asks for: a name, or a property with a value. -/
inductive PropertyQuery where
  | named (name : List Char)
  | valued (property value : List Char)
deriving DecidableEq, Repr

inductive SetOp where
  | intersection | difference | symmetricDifference
deriving DecidableEq, Repr

/-- What stands between the brackets of a class. -/
inductive ClassSet where
  | empty
  | literal (l : Literal)
  | range (first last : Literal)
  | posix (kind : PosixClass) (negated : Bool)
  | property (query : PropertyQuery) (negated : Bool)
  | shorthand (kind : Shorthand) (negated : Bool)
  | bracketed (negated : Bool) (inner : ClassSet)
  | union (items : List ClassSet)
  | combine (op : SetOp) (left right : ClassSet)

/-- Groups that remember what they matched, and groups that only scope a flag change. -/
inductive GroupKind where
  | capture (index : Nat)
  | scope (change : FlagChange)
deriving DecidableEq, Repr

/-- A regular expression as written. -/
inductive Expr where
  | empty
  | setFlags (change : FlagChange)
  | literal (l : Literal)
  | dot
  | assertion (a : Assertion)
  | property (query : PropertyQuery) (negated : Bool)
  | shorthand (kind : Shorthand) (negated : Bool)
  | bracketed (negated : Bool) (inner : ClassSet)
  | repetition (least : Nat) (most : Option Nat) (greedy : Bool) (body : Expr)
  | group (kind : GroupKind) (body : Expr)
  | alternation (branches : List Expr)
  | concat (parts : List Expr)

/-! ### Short forms -/

/-- The union of a list of items; a single item stands for itself. -/
def ClassSet.ofItems : List ClassSet → ClassSet
  | [] => .empty
  | [item] => item
  | items => .union items

/-- The concatenation of a list of parts; a single part stands for itself. -/
def Expr.ofParts : List Expr → Expr
  | [] => .empty
  | [part] => part
  | parts => .concat parts

/-! ### Depth -/

mutual

def ClassSet.depth : ClassSet → Nat
  | .bracketed _ inner => inner.depth + 1
  | .union items => ClassSet.depthAll items + 1
  | .combine _ left right => max left.depth right.depth + 1
  | _ => 0

def ClassSet.depthAll : List ClassSet → Nat
  | [] => 0
  | item :: rest => max item.depth (ClassSet.depthAll rest)

end

mutual

def Expr.depth : Expr → Nat
  | .bracketed _ inner => inner.depth + 1
  | .repetition _ _ _ body => body.depth + 1
  | .group _ body => body.depth + 1
  | .alternation branches => Expr.depthAll branches + 1
  | .concat parts => Expr.depthAll parts + 1
  | _ => 0

def Expr.depthAll : List Expr → Nat
  | [] => 0
  | part :: rest => max part.depth (Expr.depthAll rest)

end

/-- The deepest nesting that is accepted. -/
def depthLimit : Nat := 250

end TrafficRules.Regex
