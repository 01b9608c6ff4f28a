import TrafficRules.Text.Hex

/-! # JSON tokens

`tokens?` cuts a JSON text into tokens, or finds none where a token is malformed.

* **Numbers** keep their digits (`NumberText`), since what they stand for depends on who asks.
* **Strings** are read with their escapes. A string with half of a surrogate pair stands for no
  text; its token holds `none`, so that it can still be passed over. -/

namespace TrafficRules.Json

/-- A number as written. -/
structure NumberText where
  negative : Bool
  whole : List Char
  fraction : List Char := []
  /-- Whether the exponent is negative, and its digits. -/
  exponent : Option (Bool × List Char) := none
deriving DecidableEq, Repr

/-- The text of the digits behind the point. -/
def fractionText (ds : List Char) : List Char := if ds.isEmpty then [] else '.' :: ds

/-- The text of an exponent. -/
def exponentText : Option (Bool × List Char) → List Char
  | none => []
  | some (negative, ds) => 'e' :: (if negative then '-' else '+') :: ds

/-- The text of a number. -/
def NumberText.text (n : NumberText) : List Char :=
  (if n.negative then ['-'] else []) ++
    (n.whole ++ (fractionText n.fraction ++ exponentText n.exponent))

inductive Token where
  | openBracket | closeBracket | openBrace | closeBrace | comma | colon
  | null
  | bool (b : Bool)
  | number (n : NumberText)
  | string (s : Option String)
deriving DecidableEq, Repr

/-- Blanks between tokens. -/
def isBlank (c : Char) : Bool := c = ' ' || c = '\n' || c = '\t' || c = '\r'

/-! ### Strings -/

/-- The character that a one-letter escape stands for. -/
def escaped? (c : Char) : Option Char :=
  match c with
  | '"' => some '"' | '\\' => some '\\' | '/' => some '/'
  | 'b' => some '\x08' | 'f' => some '\x0c' | 'n' => some '\n' | 'r' => some '\r'
  | 't' => some '\t'
  | _ => none

/-- The code units of a string, where only escapes give surrogates, with the text behind the
closing quote. Control characters must be escaped. -/
def units? : List Char → Option (List Nat × List Char)
  | [] => none
  | '"' :: rest => some ([], rest)
  | '\\' :: 'u' :: a :: b :: c :: d :: rest => do
      let unit ← Hex.numeral? [a, b, c, d]
      (units? rest).map fun (us, more) => (unit :: us, more)
  | '\\' :: c :: rest => do
      let e ← escaped? c
      (units? rest).map fun (us, more) => (e.toNat :: us, more)
  | c :: rest =>
      if c.toNat < 0x20 then none
      else (units? rest).map fun (us, more) => (c.toNat :: us, more)

def isHighHalf (n : Nat) : Bool := 0xD800 ≤ n && n < 0xDC00

def isLowHalf (n : Nat) : Bool := 0xDC00 ≤ n && n < 0xE000

/-- The characters of code units; none for half of a surrogate pair. -/
def join? : List Nat → Option (List Char)
  | [] => some []
  | h :: l :: rest =>
      if isHighHalf h ∧ isLowHalf l then
        (join? rest).map (Char.ofNat (0x10000 + (h - 0xD800) * 0x400 + (l - 0xDC00)) :: ·)
      else if isHighHalf h ∨ isLowHalf h then none
      else (join? (l :: rest)).map (Char.ofNat h :: ·)
  | [n] => if isHighHalf n ∨ isLowHalf n then none else some [Char.ofNat n]

/-! ### Numbers -/

/-- The digits at the start of a text, at least one. -/
def digits? (s : List Char) : Option (List Char × List Char) :=
  match s.span Char.isDigit with
  | ([], _) => none
  | (ds, rest) => some (ds, rest)

/-- Reads a fraction, if there is a point. -/
def fraction? : List Char → Option (List Char × List Char)
  | '.' :: rest => digits? rest
  | s => some ([], s)

/-- Reads an exponent, if there is a letter for one. -/
def exponent? : List Char → Option (Option (Bool × List Char) × List Char)
  | c :: rest =>
      if c = 'e' ∨ c = 'E' then do
        let (negative, rest) := match rest with
          | '-' :: more => (true, more)
          | '+' :: more => (false, more)
          | _ => (false, rest)
        let (ds, more) ← digits? rest
        some (some (negative, ds), more)
      else some (none, c :: rest)
  | [] => some (none, [])

/-- Reads a number behind its sign. A number starts with a zero only if that is all of its whole
part. -/
def number? (negative : Bool) (s : List Char) : Option (NumberText × List Char) := do
  let (whole, rest) ← match s with
    | '0' :: rest => some (['0'], rest)
    | s => digits? s
  let (fraction, rest) ← fraction? rest
  let (exponent, rest) ← exponent? rest
  some (⟨negative, whole, fraction, exponent⟩, rest)

/-! ### Tokens -/

/-- Reads the token that starts with the given character. -/
def token? (c : Char) (rest : List Char) : Option (Token × List Char) :=
  match c with
  | '[' => some (.openBracket, rest)
  | ']' => some (.closeBracket, rest)
  | '\x7b' => some (.openBrace, rest)
  | '\x7d' => some (.closeBrace, rest)
  | ',' => some (.comma, rest)
  | ':' => some (.colon, rest)
  | '"' => (units? rest).map fun (us, more) => (.string ((join? us).map String.ofList), more)
  | '-' => (number? true rest).map fun (n, more) => (.number n, more)
  | 'n' => if rest.take 3 = ['u', 'l', 'l'] then some (.null, rest.drop 3) else none
  | 't' => if rest.take 3 = ['r', 'u', 'e'] then some (.bool true, rest.drop 3) else none
  | 'f' => if rest.take 4 = ['a', 'l', 's', 'e'] then some (.bool false, rest.drop 4) else none
  | c =>
      if c.isDigit then (number? false (c :: rest)).map fun (n, more) => (.number n, more)
      else none

/-- Reads at most `fuel` tokens and blanks, up to the end of the text. -/
def tokensWith? : Nat → List Char → Option (List Token)
  | _, [] => some []
  | 0, _ => none
  | fuel + 1, c :: rest =>
      if isBlank c then tokensWith? fuel rest
      else match token? c rest with
        | none => none
        | some (t, more) => (tokensWith? fuel more).map (t :: ·)

/-- The tokens of a text. Each takes a character, so the length of the text bounds their number. -/
def tokens? (s : List Char) : Option (List Token) := tokensWith? s.length s

end TrafficRules.Json
