import TrafficRules.Yaml.Tag
import TrafficRules.Yaml.Text

/-! # YAML tokens

`tokens?` cuts a text into tokens, or finds none where it is malformed. Blocks, which the text shows
by indentation only, get tokens for their starts and ends.

* **Indentation.** A block starts where an entry stands further to the right than the block around
  it, and ends at the first line that stands further to the left (`Lexer.openBlock`, `Lexer.close`).
* **Keys.** What turns out to be a key by the colon behind it gets its token in front of it
  afterwards. So the place of each possible key is remembered (`PossibleKey`): one for each level
  of brackets, as long as its line has not ended and it is not too long. At the indentation of the
  block a key is not only possible but due. -/

namespace TrafficRules.Yaml

/-- How a scalar is written. -/
inductive Style where
  | plain
  | quoted
  | literal
  | folded
deriving DecidableEq, Repr

inductive Token where
  | streamEnd
  | directive (d : Directive)
  | documentStart
  | documentEnd
  | blockSequenceStart
  | blockMappingStart
  | blockEnd
  | flowSequenceStart
  | flowSequenceEnd
  | flowMappingStart
  | flowMappingEnd
  | blockEntry
  | flowEntry
  | key
  | value
  | alias (name : List Char)
  | anchor (name : List Char)
  | tag (t : Tag)
  | scalar (text : List Char) (style : Style)
deriving DecidableEq, Repr

/-- A place where a key may have started: the number of tokens before it, and whether a key is due
there. -/
structure PossibleKey where
  due : Bool
  before : Nat
  index : Nat
  line : Nat
  column : Nat
deriving DecidableEq, Repr

/-- The greatest number of bytes of a key. -/
def maxKeyLength : Nat := 1024

/-- The state between two tokens. -/
structure Lexer where
  cursor : Cursor
  /-- The tokens so far, last one first. -/
  tokens : List Token := []
  /-- The indentation of the innermost block, and of those around it; -1 outside of all. -/
  indent : Int := -1
  outer : List Int := []
  /-- Whether a key may start here. -/
  keyAllowed : Bool := true
  /-- The possible key outside of brackets and inside each level of them, innermost first. -/
  keys : List (Option PossibleKey) := [none]

namespace Lexer

/-- Inside brackets. -/
def inFlow (l : Lexer) : Bool := 1 < l.keys.length

def push (l : Lexer) (t : Token) : Lexer := { l with tokens := t :: l.tokens }

/-- Puts a token behind the first `n` ones. -/
def insertAt (l : Lexer) (n : Nat) (t : Token) : Lexer :=
  { l with tokens := l.tokens.insertIdx (l.tokens.length - n) t }

def skip (l : Lexer) (n : Nat) : Lexer := { l with cursor := l.cursor.skip n }

/-- The innermost possible key. -/
def key? (l : Lexer) : Option PossibleKey := l.keys.head?.join

/-- Gives up the innermost possible key, unless it is due. -/
def dropKey? (l : Lexer) : Option Lexer :=
  if l.key?.any PossibleKey.due then none else some { l with keys := none :: l.keys.drop 1 }

/-- Notes that a key may start here. -/
def noteKey? (l : Lexer) : Option Lexer := do
  if !l.keyAllowed then return l
  let l ← l.dropKey?
  let c := l.cursor
  let key : PossibleKey :=
    ⟨!l.inFlow && l.indent = c.column, l.tokens.length, c.index, c.line, c.column⟩
  return { l with keys := some key :: l.keys.drop 1 }

/-- Gives up the possible keys whose line has ended or that are too long. -/
def dropStaleKeys? (l : Lexer) : Option Lexer := do
  let keys ← l.keys.mapM fun
    | none => some none
    | some k =>
        if k.line < l.cursor.line || k.index + maxKeyLength < l.cursor.index then
          if k.due then none else some none
        else some (some k)
  return { l with keys := keys }

/-- Opens a block at a column, with its token behind the first `n` ones, if the column stands
further to the right. -/
def openBlock (l : Lexer) (column : Nat) (n : Nat) (t : Token) : Lexer :=
  if !l.inFlow && l.indent < column then
    { l.insertAt n t with indent := column, outer := l.indent :: l.outer }
  else l

/-- Closes the blocks that stand further to the right than a column; `outer` are the indentations
around the present one. -/
def closeBlocks (column : Int) : List Int → Int → List Token → Lexer → Lexer
  | [], indent, tokens, l => { l with indent := indent, outer := [], tokens := tokens }
  | next :: outer, indent, tokens, l =>
      if column < indent then closeBlocks column outer next (.blockEnd :: tokens) l
      else { l with indent := indent, outer := next :: outer, tokens := tokens }

def close (l : Lexer) (column : Int) : Lexer :=
  if l.inFlow then l else closeBlocks column l.outer l.indent l.tokens l

/-- Passes over blanks, comments and line ends, at most `fuel` lines. A tab is no indentation; a
byte order mark that starts a line takes a column. -/
def skipGaps : Nat → Lexer → Lexer
  | 0, l => l
  | fuel + 1, l =>
      let c := l.cursor
      let c := if c.column = 0 && c.isAt orderMark then c.skip 1 else c
      let c := c.skipWhile fun ch => ch = ' ' || ((l.inFlow || !l.keyAllowed) && ch = '\t')
      let c := if c.isAt '#' then c.skipWhile fun ch => !isBreak ch else c
      if c.rest.head?.any isBreak then
        skipGaps fuel { l with cursor := c.skipLine, keyAllowed := l.keyAllowed || !l.inFlow }
      else { l with cursor := c }

/-! ### Tokens -/

/-- Ends all blocks, for what stands between documents. -/
def endBlocks? (l : Lexer) : Option Lexer := do
  let l ← (l.close (-1)).dropKey?
  return { l with keyAllowed := false }

def streamEnd? (l : Lexer) : Option Lexer := do return (← l.endBlocks?).push .streamEnd

def directive? (l : Lexer) : Option Lexer := do
  let l ← l.endBlocks?
  let (d, c) ← Directive.read? l.cursor
  return { l.push (.directive d) with cursor := c }

def documentMark? (l : Lexer) (t : Token) : Option Lexer := do
  return ((← l.endBlocks?).push t).skip 3

def flowStart? (l : Lexer) (t : Token) : Option Lexer := do
  let l ← l.noteKey?
  return ({ l with keys := none :: l.keys, keyAllowed := true }.push t).skip 1

def flowEnd? (l : Lexer) (t : Token) : Option Lexer := do
  let l ← l.dropKey?
  let keys := if l.inFlow then l.keys.drop 1 else l.keys
  return ({ l with keys := keys, keyAllowed := false }.push t).skip 1

def flowEntry? (l : Lexer) : Option Lexer := do
  let l ← l.dropKey?
  return ({ l with keyAllowed := true }.push .flowEntry).skip 1

/-- Opens a block at the present place, where a key must be allowed. -/
def openHere? (l : Lexer) (t : Token) : Option Lexer :=
  if l.inFlow then some l
  else if l.keyAllowed then some (l.openBlock l.cursor.column l.tokens.length t)
  else none

def blockEntry? (l : Lexer) : Option Lexer := do
  let l ← (← l.openHere? .blockSequenceStart).dropKey?
  return ({ l with keyAllowed := true }.push .blockEntry).skip 1

def keyMark? (l : Lexer) : Option Lexer := do
  let l ← (← l.openHere? .blockMappingStart).dropKey?
  return ({ l with keyAllowed := !l.inFlow }.push .key).skip 1

/-- The colon behind a key. If a key was possible, it is one. -/
def valueMark? (l : Lexer) : Option Lexer := do
  let l ← match l.key? with
    | some k =>
        let l := (l.insertAt k.before .key).openBlock k.column k.before .blockMappingStart
        some { l with keys := none :: l.keys.drop 1, keyAllowed := false }
    | none => do
        let l ← l.openHere? .blockMappingStart
        some { l with keyAllowed := !l.inFlow }
  return (l.push .value).skip 1

/-- A name behind the mark of an anchor or an alias. A gap or certain marks must follow. -/
def name? (l : Lexer) (token : List Char → Token) : Option Lexer := do
  let l ← l.noteKey?
  let name := (l.cursor.skip 1).takeWhile isWord
  let c := l.cursor.skip (name.length + 1)
  if name.isEmpty || !(c.gapAt 0 || c.head?.any (['?', ':', ',', ']', '\x7d', '%', '@', '\x60'].contains ·))
  then none
  else some { l.push (token name) with cursor := c, keyAllowed := false }

def tag? (l : Lexer) : Option Lexer := do
  let l ← l.noteKey?
  let (t, c) ← Tag.read? l.inFlow l.cursor
  return { l.push (.tag t) with cursor := c, keyAllowed := false }

def block? (l : Lexer) (style : Style) : Option Lexer := do
  let l ← l.dropKey?
  let (text, c) ← Yaml.block? (style = .literal) l.indent l.cursor
  return { l.push (.scalar text style) with cursor := c, keyAllowed := true }

def quoted? (l : Lexer) (single : Bool) : Option Lexer := do
  let l ← l.noteKey?
  let (text, c) ← Yaml.quoted? single l.cursor
  return { l.push (.scalar text .quoted) with cursor := c, keyAllowed := false }

def plain? (l : Lexer) : Option Lexer := do
  let l ← l.noteKey?
  let (text, broken, c) ← Yaml.plain? l.inFlow (l.indent + 1).toNat l.cursor
  return { l.push (.scalar text .plain) with cursor := c, keyAllowed := broken }

/-- A character that no plain scalar starts with, unless something other than a gap follows. -/
def isMark (c : Char) : Bool :=
  ['-', '?', ':', ',', '[', ']', '\x7b', '\x7d', '#', '&', '*', '!', '|', '>', '\'', '"', '%', '@',
    '\x60'].contains c

/-- Reads the token that starts with the given character. -/
def token? (l : Lexer) (ch : Char) : Option Lexer :=
  let c := l.cursor
  let gap := c.gapAt 1
  if c.column = 0 && ch = '%' then l.directive?
  else if c.atDocumentMark then l.documentMark? (if ch = '-' then .documentStart else .documentEnd)
  else match ch with
    | '[' => l.flowStart? .flowSequenceStart
    | '\x7b' => l.flowStart? .flowMappingStart
    | ']' => l.flowEnd? .flowSequenceEnd
    | '\x7d' => l.flowEnd? .flowMappingEnd
    | ',' => l.flowEntry?
    | '*' => l.name? .alias
    | '&' => l.name? .anchor
    | '!' => l.tag?
    | '\'' => l.quoted? true
    | '"' => l.quoted? false
    | _ =>
        if ch = '-' && gap then l.blockEntry?
        else if ch = '?' && (l.inFlow || gap) then l.keyMark?
        else if ch = ':' && (l.inFlow || gap) then l.valueMark?
        else if ch = '|' && !l.inFlow then l.block? .literal
        else if ch = '>' && !l.inFlow then l.block? .folded
        else if !(isBlank ch || isBreak ch || isMark ch) || (ch = '-' && !gap) ||
            (!l.inFlow && (ch = '?' || ch = ':') && !gap) then l.plain?
        else none

/-- Reads tokens up to the end of the text, at most `fuel` of them, which is more than the characters
left. -/
def run? : Nat → Lexer → Option Lexer
  | 0, _ => none
  | fuel + 1, l => do
      let l ← (skipGaps (fuel + 1) l).dropStaleKeys?
      let l := l.close l.cursor.column
      match l.cursor.rest with
      | [] => l.streamEnd?
      | ch :: _ => run? fuel (← l.token? ch)

end Lexer

/-- The tokens of a text. Each takes a character, so the length of the text bounds their number. -/
def tokens? (s : List Char) : Option (List Token) :=
  if s.all isAllowed then
    (Lexer.run? (s.length + 1) { cursor := ⟨s, 0, 0, 0⟩ }).map fun l => l.tokens.reverse
  else none

end TrafficRules.Yaml
