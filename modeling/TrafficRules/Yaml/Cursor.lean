import TrafficRules.Text.Hex
import TrafficRules.Text.Utf8

/-! # Positions in a YAML text

A `Cursor` stands before the part of a text that is left to read and knows its line and column,
which indentation is measured by. Lines end in a carriage return, a line feed, both, or one of
the three Unicode line ends; inside a text all but the last two become a line feed. -/

namespace TrafficRules.Yaml

/-! ### Characters -/

def isBreak (c : Char) : Bool :=
  c = '\r' || c = '\n' || c = '\u0085' || c = '\u2028' || c = '\u2029'

def isBlank (c : Char) : Bool := c = ' ' || c = '\t'

/-- A character of the name of an anchor, a handle or a directive. -/
def isWord (c : Char) : Bool := c.isAlphanum || c = '_' || c = '-'

/-- A character that a text may hold; other controls are refused. -/
def isAllowed (c : Char) : Bool :=
  c = '\t' || c = '\n' || c = '\r' || (0x20 ≤ c.toNat && c.toNat ≤ 0x7E) || c = '\u0085' ||
    (0xA0 ≤ c.toNat && c.toNat ≤ 0xD7FF) || (0xE000 ≤ c.toNat && c.toNat ≤ 0xFFFD) ||
    0x10000 ≤ c.toNat

/-- The byte order mark, which may start a line. -/
def orderMark : Char := '\uFEFF'

/-! ### Cursors -/

structure Cursor where
  rest : List Char
  /-- The number of bytes before. -/
  index : Nat := 0
  line : Nat := 0
  column : Nat := 0
deriving DecidableEq, Repr

namespace Cursor

/-- The next character. -/
def head? (c : Cursor) : Option Char := c.rest.head?

/-- Whether the next character is the given one. -/
def isAt (c : Cursor) (ch : Char) : Bool := c.rest.head? = some ch

/-- Whether a blank, the end of a line or the end of the text comes `n` characters ahead. -/
def gapAt (c : Cursor) (n : Nat) : Bool :=
  match c.rest[n]? with
  | none => true
  | some ch => isBlank ch || isBreak ch

/-- Whether the line ends here. -/
def atLineEnd (c : Cursor) : Bool := c.rest.head?.all isBreak

/-- Passes over characters that end no line. -/
def skip (n : Nat) (c : Cursor) : Cursor :=
  { c with
    rest := c.rest.drop n
    index := (c.rest.take n).foldl (fun i ch => i + ch.utf8Size) c.index
    column := c.column + n }

/-- Passes over the end of a line, if there is one here. -/
def skipLine (c : Cursor) : Cursor :=
  match c.rest with
  | '\r' :: '\n' :: rest => ⟨rest, c.index + 2, c.line + 1, 0⟩
  | ch :: rest =>
      if isBreak ch then ⟨rest, c.index + ch.utf8Size, c.line + 1, 0⟩ else c
  | [] => c

/-- The text of the end of a line, if there is one here. -/
def lineEnd (c : Cursor) : List Char :=
  match c.rest with
  | ch :: _ => if ch = '\u2028' ∨ ch = '\u2029' then [ch] else if isBreak ch then ['\n'] else []
  | [] => []

/-- The characters from here on that satisfy a condition. -/
def takeWhile (p : Char → Bool) (c : Cursor) : List Char := c.rest.takeWhile p

/-- Passes over the characters from here on that satisfy a condition; none ends a line. -/
def skipWhile (p : Char → Bool) (c : Cursor) : Cursor := c.skip (c.takeWhile p).length

/-- Passes over blanks and a comment up to the end of the line; anything else is refused. -/
def skipLineRest? (c : Cursor) : Option Cursor :=
  let c := c.skipWhile isBlank
  let c := if c.isAt '#' then c.skipWhile fun ch => !isBreak ch else c
  if c.atLineEnd then some c.skipLine else none

/-- Whether a line with a mark between documents starts here. -/
def atDocumentMark (c : Cursor) : Bool :=
  c.column = 0 && (c.rest.take 3 = ['-', '-', '-'] || c.rest.take 3 = ['.', '.', '.']) && c.gapAt 3

end Cursor
end TrafficRules.Yaml
