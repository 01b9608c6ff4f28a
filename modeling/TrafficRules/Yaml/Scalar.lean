import TrafficRules.Document.Node
import TrafficRules.Yaml.Token

/-! # What YAML scalars stand for

Any scalar stands for its text. A plain scalar may stand for a number, a truth value or nothing as
well, whatever its tag; a literal one only under the tag of just that.

* **Numbers** are decimal, or have one of the marks `0x`, `0o` and `0b`. A decimal number of several
  digits does not start with a zero.
* **Nothing** is an empty plain scalar or a word for it; under the tag of nothing it must be such a
  word.
* **Choices** are named by the text, or by a tag of one's own in front of nothing. -/

namespace TrafficRules.Yaml

open Document (Scalar)

/-! ### Numbers -/

def digitValue? (base : Nat) (c : Char) : Option Nat :=
  (Hex.digit? c).bind fun d => if d < base then some d else none

/-- The number with the given digits, at least one. -/
def digits? (base : Nat) (s : List Char) : Option Nat :=
  if s.isEmpty then none
  else s.foldlM (fun n c => (digitValue? base c).map (n * base + ·)) 0

/-- The number behind a mark for its base. -/
def marked? : List Char → Option Nat
  | '0' :: 'x' :: rest => digits? 16 rest
  | '0' :: 'o' :: rest => digits? 8 rest
  | '0' :: 'b' :: rest => digits? 2 rest
  | _ => none

/-- The number with the given decimal digits; several of them do not start with a zero. -/
def decimal? (s : List Char) : Option Nat :=
  if 1 < s.length && s.head? = some '0' then none else digits? 10 s

/-- The number of digits without a minus sign. -/
def unsigned? (s : List Char) : Option Nat := marked? s <|> decimal? s

/-- The natural number that a text stands for. -/
def natural? (s : List Char) : Option Nat :=
  match s with
  | '+' :: rest => unsigned? rest
  | s => unsigned? s

/-- The integer that a text stands for. -/
def integer? (s : List Char) : Option Int :=
  match s with
  | '-' :: rest => (unsigned? rest).map fun n => -(n : Int)
  | s => (natural? s).map fun n => (n : Int)

/-- The truth value that a text stands for. -/
def truth? (s : String) : Option Bool :=
  if ["true", "True", "TRUE"].contains s then some true
  else if ["false", "False", "FALSE"].contains s then some false
  else none

/-- A word for nothing. -/
def isNothing (s : String) : Bool := ["null", "Null", "NULL", "~"].contains s

/-! ### Scalars -/

/-- The tag of a type of the language. -/
def coreTag (name : String) : String := "tag:yaml.org,2002:" ++ name

/-- What a scalar with the given text stands for. -/
def scalarOf (text : String) (style : Style) (tag : Option String) : Scalar :=
  let plain := style = .plain
  let typed (name : String) : Bool := plain || (style = .literal && tag = some (coreTag name))
  let nothing := plain && (text = "" || isNothing text)
  { text := some text
    natural := if typed "int" then natural? text.toList else none
    integer := if typed "int" then integer? text.toList else none
    bool := if typed "bool" then truth? text else none
    absent :=
      if !plain then some false
      else match tag with
        | none => some nothing
        | some tag =>
            if tag = coreTag "null" then if isNothing text then some true else none
            else some false
    blank := plain && text = ""
    choice := match tag.map String.toList with
      | some ('!' :: own) =>
          if nothing then some (if own.isEmpty then "!" else String.ofList own) else none
      | _ => some text }

end TrafficRules.Yaml
