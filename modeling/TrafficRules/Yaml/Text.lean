import TrafficRules.Yaml.Cursor

/-! # Texts of YAML scalars

How the text of a scalar is put together from its lines.

* **Folding.** Inside plain and quoted scalars a single line end becomes a blank, and of several
  the first is dropped (`Gap.text`). A folded block scalar does the same between lines that do
  not start with a blank.
* **Plain scalars** end before `: `, a comment, a mark between documents, and a line that is
  indented less than its block; inside brackets they end before any bracket or comma as well.
* **Quoted scalars** end at their quote.
* **Block scalars** take all lines that are indented enough. Their last line ends are kept, kept
  once, or dropped. -/

namespace TrafficRules.Yaml

/-! ### Gaps between words -/

/-- What stands between two words of a scalar: blanks, or a first line end and further ones. -/
structure Gap where
  blanks : List Char := []
  first : List Char := []
  further : List Char := []
  broken : Bool := false

namespace Gap

/-- What a gap stands for. -/
def text (g : Gap) : List Char :=
  if g.broken then
    if g.first = ['\n'] then (if g.further.isEmpty then [' '] else g.further)
    else g.first ++ g.further
  else g.blanks

/-- Reads a gap, at most `fuel` steps of it. Given an indentation, a tab before it is refused. -/
def read? (indent : Option Nat) : Nat → Gap → Cursor → Option (Gap × Cursor)
  | 0, g, c => some (g, c)
  | fuel + 1, g, c =>
      match c.rest with
      | [] => some (g, c)
      | ch :: _ =>
          if isBlank ch then
            if g.broken && ch = '\t' && indent.any (c.column < ·) then none
            else if g.broken then read? indent fuel g (c.skip 1)
            else read? indent fuel { g with blanks := g.blanks ++ [ch] } (c.skip 1)
          else if isBreak ch then
            let g := if g.broken then { g with further := g.further ++ c.lineEnd }
              else { g with blanks := [], first := c.lineEnd, broken := true }
            read? indent fuel g c.skipLine
          else some (g, c)

end Gap

/-! ### Plain scalars -/

def isFlowMark (c : Char) : Bool := [',', '[', ']', '\x7b', '\x7d'].contains c

/-- The characters of a plain scalar up to a gap or its end. Inside brackets a colon must not touch
a bracket, a comma or a question mark. -/
def plainWord? (flow : Bool) : List Char → Option (List Char)
  | [] => some []
  | ch :: rest =>
      let next := rest.head?
      if isBlank ch || isBreak ch then some []
      else if flow && ch = ':' && next.any (fun n => isFlowMark n || n = '?') then none
      else if ch = ':' && next.all (fun n => isBlank n || isBreak n) then some []
      else if flow && isFlowMark ch then some []
      else (plainWord? flow rest).map (ch :: ·)

/-- Reads a plain scalar on, at most `fuel` words of it, which is more than the characters left. The
pieces of its text are put in front of those given. The result tells as well whether a line ended
behind its last word. -/
def plainFrom? (flow : Bool) (indent : Nat) :
    Nat → List (List Char) → Gap → Cursor → Option (List (List Char) × Bool × Cursor)
  | 0, text, g, c => some (text, g.broken, c)
  | fuel + 1, text, g, c =>
      if c.atDocumentMark || c.isAt '#' then some (text, g.broken, c)
      else do
        let word ← plainWord? flow c.rest
        let (text, g) := if word.isEmpty then (text, g) else (word :: g.text :: text, {})
        let c := c.skip word.length
        if !c.gapAt 0 || c.rest.isEmpty then some (text, g.broken, c)
        else do
          let (g, c) ← Gap.read? (some indent) fuel g c
          if !flow && c.column < indent then some (text, g.broken, c)
          else plainFrom? flow indent fuel text g c

/-- Reads a plain scalar. -/
def plain? (flow : Bool) (indent : Nat) (c : Cursor) : Option (List Char × Bool × Cursor) :=
  (plainFrom? flow indent (c.rest.length + 1) [] {} c).map fun (text, broken, c) =>
    (text.reverse.flatten, broken, c)

/-! ### Quoted scalars -/

/-- The character that a letter behind a backslash stands for. -/
def shortEscape? (c : Char) : Option Char :=
  [('0', '\x00'), ('a', '\x07'), ('b', '\x08'), ('t', '\t'), ('\t', '\t'), ('n', '\n'),
    ('v', '\x0b'), ('f', '\x0c'), ('r', '\r'), ('e', '\x1b'), (' ', ' '), ('"', '"'), ('/', '/'),
    ('\\', '\\'), ('N', '\u0085'), ('_', '\u00a0'), ('L', '\u2028'), ('P', '\u2029')].lookup c

/-- The number of digits behind a letter that starts a number. -/
def escapeDigits? (c : Char) : Option Nat := [('x', 2), ('u', 4), ('U', 8)].lookup c

/-- Reads what stands behind a backslash: a character, and the number of characters that it takes. -/
def escape? : List Char → Option (Char × Nat)
  | [] => none
  | c :: rest =>
      match escapeDigits? c with
      | none => (shortEscape? c).map (·, 1)
      | some n => do
          let digits := rest.take n
          if digits.length < n then none
          else
            let value ← Hex.numeral? digits
            if value.isValidChar then some (Char.ofNat value, n + 1) else none

/-- The characters of a quoted scalar up to a gap or its quote, at most `fuel` of them, with the
number of characters that they take. The flag tells that an escaped line end follows. -/
def quotedWord? (single : Bool) : Nat → List Char → Option (List Char × Nat × Bool)
  | 0, _ => some ([], 0, false)
  | fuel + 1, s =>
      match s with
      | [] => some ([], 0, false)
      | ch :: rest =>
          let more (out : Char) (n : Nat) : Option (List Char × Nat × Bool) :=
            (quotedWord? single fuel (s.drop n)).map fun (text, m, broken) =>
              (out :: text, n + m, broken)
          if isBlank ch || isBreak ch then some ([], 0, false)
          else if single then
            if ch = '\'' then if rest.head? = some '\'' then more '\'' 2 else some ([], 0, false)
            else more ch 1
          else if ch = '"' then some ([], 0, false)
          else if ch = '\\' then
            if rest.head?.any isBreak then some ([], 1, true)
            else do
              let (out, n) ← escape? rest
              more out (n + 1)
          else more ch 1

/-- Reads a quoted scalar on behind its first quote, at most `fuel` words of it, which is more than
the characters left. The pieces of its text are put in front of those given. -/
def quotedFrom? (single : Bool) :
    Nat → List (List Char) → Cursor → Option (List (List Char) × Cursor)
  | 0, _, _ => none
  | fuel + 1, text, c =>
      if c.atDocumentMark || c.rest.isEmpty then none
      else do
        let (word, n, broken) ← quotedWord? single fuel c.rest
        let c := c.skip n
        let c := if broken then c.skipLine else c
        let text := word :: text
        if c.isAt (if single then '\'' else '"') then some (text, c.skip 1)
        else do
          let (g, c) ← Gap.read? none fuel { broken := broken } c
          quotedFrom? single fuel (g.text :: text) c

/-- Reads a quoted scalar. -/
def quoted? (single : Bool) (c : Cursor) : Option (List Char × Cursor) :=
  (quotedFrom? single (c.rest.length + 1) [] (c.skip 1)).map fun (text, c) =>
    (text.reverse.flatten, c)

/-! ### Block scalars -/

/-- What becomes of the line ends behind the last line. -/
inductive Chomp where
  | clip
  | strip
  | keep
deriving DecidableEq, Repr

def chomp? (c : Cursor) : Option Chomp :=
  match c.head? with
  | some '+' => some .keep
  | some '-' => some .strip
  | _ => none

/-- Reads the marks behind the indicator of a block scalar: how it ends and by how much it is
indented, in either order; an indentation of zero is refused. -/
def blockHeader? (c : Cursor) : Option (Chomp × Nat × Cursor) := do
  let digit? (c : Cursor) : Option Nat := c.head?.bind fun ch =>
    if ch.isDigit then some (ch.toNat - 48) else none
  let first := chomp? c
  let c := if first.isSome then c.skip 1 else c
  let indent := digit? c
  if indent = some 0 then none
  let c := if indent.isSome then c.skip 1 else c
  let second := if first.isNone && indent.isSome then chomp? c else none
  let c := if second.isSome then c.skip 1 else c
  some ((first <|> second).getD .clip, indent.getD 0, ← c.skipLineRest?)

/-- Reads the empty lines and the indentation before a line, at most `fuel` lines. `indent` is zero
while the indentation is not known; `widest` is the greatest one so far. -/
def blockBreaks? (indent : Nat) : Nat → Nat → List Char → Cursor → Option (Nat × List Char × Cursor)
  | 0, widest, breaks, c => some (widest, breaks, c)
  | fuel + 1, widest, breaks, c =>
      let spaces := (c.takeWhile (· = ' ')).length
      let c := c.skip (if indent = 0 then spaces else min spaces (indent - c.column))
      let widest := max widest c.column
      if (indent = 0 || c.column < indent) && c.isAt '\t' then none
      else if c.rest.head?.any isBreak then
        blockBreaks? indent fuel widest (breaks ++ c.lineEnd) c.skipLine
      else some (widest, breaks, c)

/-- Reads the lines of a block scalar on, at most `fuel` of them, which is more than the characters
left. The pieces of its text are put in front of those given. `ended` is the line end behind the
line before, `breaks` are the empty lines since, and `blank` tells whether the line before
started with a blank. -/
def blockLines? (literal : Bool) (indent : Nat) :
    Nat → List (List Char) → List Char → List Char → Bool → Cursor →
      Option (List (List Char) × List Char × List Char × Cursor)
  | 0, text, ended, breaks, _, c => some (text, ended, breaks, c)
  | fuel + 1, text, ended, breaks, blank, c =>
      if c.column = indent && !c.rest.isEmpty then do
        let startsBlank := c.head?.any isBlank
        let joint :=
          if !literal && ended = ['\n'] && !blank && !startsBlank then
            if breaks.isEmpty then [' '] else breaks
          else ended ++ breaks
        let line := c.takeWhile fun ch => !isBreak ch
        let c := c.skip line.length
        let (_, breaks, next) ← blockBreaks? indent fuel 0 [] c.skipLine
        blockLines? literal indent fuel (line :: joint :: text) c.lineEnd breaks startsBlank next
      else some (text, ended, breaks, c)

/-- Reads a block scalar behind its indicator, inside a block of the given indentation, which is
negative outside of any. -/
def block? (literal : Bool) (parent : Int) (c : Cursor) : Option (List Char × Cursor) := do
  let (chomp, step, c) ← blockHeader? (c.skip 1)
  let given := if step = 0 then 0 else (max parent 0).toNat + step
  let (widest, breaks, c) ← blockBreaks? given (c.rest.length + 1) 0 [] c
  let indent := if given = 0 then max (max widest (parent + 1).toNat) 1 else given
  let (text, ended, breaks, c) ←
    blockLines? literal indent (c.rest.length + 1) [] [] breaks false c
  let text := text.reverse.flatten
  some (text ++ (if chomp = .strip then [] else ended) ++ (if chomp = .keep then breaks else []), c)

end TrafficRules.Yaml
