import TrafficRules.Json.Token

/-! # JSON texts as trees

`Node.ofText?` reads a JSON text into a tree that still holds numbers as written, strings that
stand for no text, and members of objects in their order, repeated ones included. What the tree
means is decided by who reads it. -/

namespace TrafficRules.Json

inductive Node where
  | null
  | bool (b : Bool)
  | number (n : NumberText)
  | string (s : Option String)
  | array (items : List Node)
  | object (members : List (Option String × Node))

namespace Node

mutual

/-- Reads a value; `fuel` bounds the number of steps. -/
def value? : Nat → List Token → Option (Node × List Token)
  | 0, _ => none
  | _ + 1, .null :: rest => some (.null, rest)
  | _ + 1, .bool b :: rest => some (.bool b, rest)
  | _ + 1, .number n :: rest => some (.number n, rest)
  | _ + 1, .string s :: rest => some (.string s, rest)
  | _ + 1, .openBracket :: .closeBracket :: rest => some (.array [], rest)
  | fuel + 1, .openBracket :: rest =>
      (items? fuel rest).map fun (xs, more) => (.array xs, more)
  | _ + 1, .openBrace :: .closeBrace :: rest => some (.object [], rest)
  | fuel + 1, .openBrace :: rest =>
      (members? fuel rest).map fun (ms, more) => (.object ms, more)
  | _ + 1, _ => none

/-- Reads the values of an array up to its closing bracket. -/
def items? : Nat → List Token → Option (List Node × List Token)
  | 0, _ => none
  | fuel + 1, tokens =>
      match value? fuel tokens with
      | some (x, .comma :: rest) => (items? fuel rest).map fun (xs, more) => (x :: xs, more)
      | some (x, .closeBracket :: rest) => some ([x], rest)
      | _ => none

/-- Reads the members of an object up to its closing brace. -/
def members? : Nat → List Token → Option (List (Option String × Node) × List Token)
  | 0, _ => none
  | fuel + 1, .string k :: .colon :: tokens =>
      match value? fuel tokens with
      | some (x, .comma :: rest) =>
          (members? fuel rest).map fun (ms, more) => ((k, x) :: ms, more)
      | some (x, .closeBrace :: rest) => some ([(k, x)], rest)
      | _ => none
  | _ + 1, _ => none

end

/-- The tree of a JSON text. A value takes at least half as many tokens as steps. -/
def ofText? (s : List Char) : Option Node := do
  let tokens ← tokens? s
  match value? (2 * tokens.length + 1) tokens with
  | some (x, []) => some x
  | _ => none

end Node
end TrafficRules.Json
