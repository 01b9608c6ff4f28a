import TrafficRules.Text.Hex
import TrafficRules.Unicode.Property
import TrafficRules.Regex.Expr

/-! # Reading the small parts of an expression

Readers take the characters that remain and give what they read with the characters behind it,
or `none` where the text is malformed.

* **Blanks.** With the flag `x` blanks and comments between tokens are skipped (`skip`).
* **Escapes.** `escape?` reads what follows a backslash (`Token`).
* **Counts.** `count?` reads the inside of `{n}`, `{n,}` and `{n,m}`.
* **Flags and names.** `flags?` reads up to `:` or `)`; `groupName?` reads up to `>`. -/

namespace TrafficRules.Regex

open Unicode (isWhite isAlphabetic isAlphanumeric)

/-! ### Blanks and comments -/

/-- Skips blanks and comments; a comment runs from `#` to the end of its line. -/
def skipBlanks (inComment : Bool) : List Char → List Char
  | [] => []
  | c :: rest =>
      if inComment then skipBlanks (c != '\n') rest
      else if isWhite c then skipBlanks false rest
      else if c = '#' then skipBlanks true rest
      else c :: rest

theorem skipBlanks_length_le (b : Bool) (s : List Char) : (skipBlanks b s).length ≤ s.length := by
  induction s generalizing b with
  | nil => simp [skipBlanks]
  | cons c rest ih =>
      unfold skipBlanks
      split
      · exact Nat.le_succ_of_le (ih _)
      · split
        · exact Nat.le_succ_of_le (ih _)
        · split
          · exact Nat.le_succ_of_le (ih _)
          · exact Nat.le_refl _

/-- Skips blanks and comments where the flag `x` is on. -/
def skip (x : Bool) (s : List Char) : List Char := if x then skipBlanks false s else s

theorem skip_length_le (x : Bool) (s : List Char) : (skip x s).length ≤ s.length := by
  unfold skip
  split
  · exact skipBlanks_length_le _ _
  · exact Nat.le_refl _

/-- The next character to count behind the current one. Where the flag `x` is on, blanks and one
comment sign are looked past; where nothing else is left, the very next character counts. -/
def peekPast (x : Bool) (rest : List Char) : Option Char :=
  if x then
    let seen := match rest.dropWhile isWhite with
      | '#' :: more => more.dropWhile isWhite
      | other => other
    seen.head? <|> rest.head?
  else rest.head?

/-! ### Escapes -/

/-- What an escape stands for. -/
inductive Token where
  | literal (l : Literal)
  | assertion (a : Assertion)
  | property (query : PropertyQuery) (negated : Bool)
  | shorthand (kind : Shorthand) (negated : Bool)
deriving DecidableEq, Repr

/-- Characters with a meaning of their own somewhere in an expression. -/
def isMeta (c : Char) : Bool := "\\.+*?()|[]\x7b\x7d^$#&-~".toList.contains c

/-- ASCII characters that may be escaped without need: all but letters, digits and the angle
brackets. -/
def isEscapable (c : Char) : Bool :=
  isMeta c || (c.toNat < 0x80 && !c.isAlphanum && c != '<' && c != '>')

/-- The scalar value of a number, if it is one. -/
def scalarOf? (n : Nat) : Option Char := if n.isValidChar then some (Char.ofNat n) else none

/-- Reads exactly `n` digits; blanks behind each are skipped with the flag `x`. -/
def fixedHex? (x : Bool) : Nat → Nat → List Char → Option (Nat × List Char)
  | 0, acc, s => some (acc, s)
  | _ + 1, _, [] => none
  | n + 1, acc, c :: s => do fixedHex? x n (acc * 16 + (← Hex.digit? c)) (skip x s)

/-- Reads digits up to the closing brace; at least one is needed. -/
def bracedHex? (x : Bool) (acc : Nat) (any : Bool) (s : List Char) : Option (Nat × List Char) :=
  match s with
  | [] => none
  | c :: rest =>
      if c = '\x7d' then if any then some (acc, skip x rest) else none
      else match Hex.digit? c with
        | none => none
        | some d => bracedHex? x (acc * 16 + d) true (skip x rest)
termination_by s.length
decreasing_by have := skip_length_le x rest; simp; omega

/-- Reads the character of `\x`, `\u` or `\U`, given how many digits it has without braces. -/
def hexLiteral? (x : Bool) (digits : Nat) (s : List Char) : Option (Literal × List Char) :=
  match skip x s with
  | '\x7b' :: rest => do
      let (n, rest) ← bracedHex? x 0 false (skip x rest)
      some (⟨← scalarOf? n, false⟩, rest)
  | s => do
      let (n, rest) ← fixedHex? x digits 0 s
      some (⟨← scalarOf? n, digits == 2⟩, rest)

/-- Reads a property name up to the closing brace. -/
def bracedName? (x : Bool) (s : List Char) : Option (List Char × List Char) :=
  match s with
  | [] => none
  | c :: rest =>
      if c = '\x7d' then some ([], rest)
      else (bracedName? x (skip x rest)).map fun (name, more) => (c :: name, more)
termination_by s.length
decreasing_by have := skip_length_le x rest; simp; omega

/-- Cuts a list at the first place where `sep` stands. -/
def cutAt? (sep : List Char) : List Char → Option (List Char × List Char)
  | [] => none
  | c :: rest =>
      if sep.isPrefixOf (c :: rest) then some ([], (c :: rest).drop sep.length)
      else (cutAt? sep rest).map fun (before, after) => (c :: before, after)

/-- Splits a property name from its value at `!=`, else at `:`, else at `=`, and tells whether what
has the value is left out. -/
def propertyQuery (name : List Char) : PropertyQuery × Bool :=
  match cutAt? ['!', '='] name with
  | some (property, value) => (.valued property value, true)
  | none =>
      match cutAt? [':'] name <|> cutAt? ['='] name with
      | some (property, value) => (.valued property value, false)
      | none => (.named name, false)

/-- Reads what follows `\p`, or `\P` if negated: one letter, or a name in braces. -/
def propertyClass? (x negated : Bool) (s : List Char) : Option (Token × List Char) :=
  match skip x s with
  | [] => none
  | '\x7b' :: rest => do
      let (name, more) ← bracedName? x (skip x rest)
      let (query, excludes) := propertyQuery name
      some (.property query (negated != excludes), more)
  | c :: rest => if c = '\\' then none else some (.property (.named [c]) negated, skip x rest)

/-- Reads letters and hyphens up to the first other character. -/
def boundaryName (x : Bool) (s : List Char) : List Char × List Char :=
  match s with
  | [] => ([], [])
  | c :: rest =>
      if c.isAlpha || c = '-' then
        let (name, more) := boundaryName x (skip x rest)
        (c :: name, more)
      else ([], c :: rest)
termination_by s.length
decreasing_by have := skip_length_le x rest; simp; omega

/-- Reads what follows `\b`: a kind of boundary in braces. Braces that start otherwise are left
for a count. -/
def boundary? (x : Bool) (s : List Char) : Option (Assertion × List Char) :=
  match s with
  | '\x7b' :: rest =>
      match skip x rest with
      | [] => none
      | c :: more =>
          if c.isAlpha || c = '-' then
            let (name, more) := boundaryName x (c :: more)
            match more with
            | '\x7d' :: more =>
                if name = "start".toList then some (.wordStart, more)
                else if name = "end".toList then some (.wordEnd, more)
                else if name = "start-half".toList then some (.wordStartHalf, more)
                else if name = "end-half".toList then some (.wordEndHalf, more)
                else none
            | _ => none
          else some (.wordBoundary, s)
  | _ => some (.wordBoundary, s)

/-- The control characters that have a letter of their own. -/
def controlOf? (c : Char) : Option Char :=
  match c with
  | 'a' => some '\x07' | 'f' => some '\x0c' | 't' => some '\t'
  | 'n' => some '\n' | 'r' => some '\r' | 'v' => some '\x0b'
  | _ => none

/-- The conditions that a single letter or angle bracket names. -/
def assertionOf? (c : Char) : Option Assertion :=
  match c with
  | 'A' => some .textStart | 'z' => some .textEnd | 'B' => some .notWordBoundary
  | '<' => some .wordStart | '>' => some .wordEnd
  | _ => none

/-- The class that a letter names, and whether it is negated. -/
def shorthandOf? (c : Char) : Option (Shorthand × Bool) :=
  match c with
  | 'd' => some (.digit, false) | 's' => some (.space, false) | 'w' => some (.word, false)
  | 'D' => some (.digit, true) | 'S' => some (.space, true) | 'W' => some (.word, true)
  | _ => none

/-- How many digits a character number has without braces, by its letter. -/
def hexDigitsOf? (c : Char) : Option Nat :=
  match c with
  | 'x' => some 2 | 'u' => some 4 | 'U' => some 8
  | _ => none

/-- Reads what follows a backslash. There are no back references, so a digit is refused. -/
def escape? (x : Bool) : List Char → Option (Token × List Char)
  | [] => none
  | c :: rest =>
      if let some digits := hexDigitsOf? c then
        (hexLiteral? x digits rest).map fun (l, more) => (.literal l, more)
      else if c = 'p' ∨ c = 'P' then
        propertyClass? x (c == 'P') rest
      else if let some (kind, negated) := shorthandOf? c then some (.shorthand kind negated, rest)
      else if isEscapable c then some (.literal ⟨c, false⟩, rest)
      else if let some control := controlOf? c then some (.literal ⟨control, false⟩, rest)
      else if c = 'b' then (boundary? x rest).map fun (a, more) => (.assertion a, more)
      else (assertionOf? c).map fun a => (.assertion a, rest)

/-! ### Counts -/

/-- The greatest count. -/
def maxCount : Nat := 0xFFFFFFFF

/-- Reads decimal digits, blanks between them skipped with the flag `x`. -/
def digits (x : Bool) (s : List Char) : List Char × List Char :=
  match s with
  | [] => ([], [])
  | c :: rest =>
      if c.isDigit then
        let (ds, more) := digits x (skip x rest)
        (c :: ds, more)
      else ([], c :: rest)
termination_by s.length
decreasing_by have := skip_length_le x rest; simp; omega

/-- Skips blanks, which are allowed around a count whatever the flag `x`. -/
def skipWhite (x : Bool) (s : List Char) : List Char :=
  match s with
  | [] => []
  | c :: rest => if isWhite c then skipWhite x (skip x rest) else c :: rest
termination_by s.length
decreasing_by have := skip_length_le x rest; simp; omega

/-- The number that decimal digits denote. -/
def decimal (ds : List Char) : Nat := ds.foldl (fun n d => n * 10 + (d.toNat - 48)) 0

/-- Reads a decimal number with blanks around it: no digits, a number in range, or `none` inside
for a number out of range. -/
def number (x : Bool) (s : List Char) : Option Nat × List Char :=
  let (ds, rest) := digits x (s.dropWhile isWhite)
  let n := if ds.isEmpty ∨ maxCount < decimal ds then none else some (decimal ds)
  (n, skipWhite x rest)

/-- Reads a count behind its opening brace, with the closing brace: the least and the greatest
number of times. -/
def count? (x : Bool) (s : List Char) : Option (Nat × Option Nat × List Char) := do
  let (least, rest) := number x (skip x s)
  let (most, rest) ← match rest with
    | ',' :: rest =>
        match skip x rest with
        | '\x7d' :: more => some (none, '\x7d' :: more)
        | more =>
            let (most, more) := number x more
            most.map fun n => (some n, more)
    | _ => some (least, rest)
  let least ← least
  match rest with
  | '\x7d' :: more =>
      if most.all fun m => decide (least ≤ m) then some (least, most, skip x more) else none
  | _ => none

/-! ### Flags and group names -/

namespace FlagChange

/-- The setting of the flag with the given letter; the outer `none` is for unknown letters. -/
def get? (f : FlagChange) (c : Char) : Option (Option Bool) :=
  match c with
  | 'i' => some f.caseless | 'm' => some f.multiLine | 's' => some f.dotAll
  | 'U' => some f.swapGreed | 'u' => some f.unicode | 'R' => some f.crlf
  | 'x' => some f.ignoreBlanks
  | _ => none

/-- Sets or clears the flag with the given letter. -/
def put (f : FlagChange) (c : Char) (on : Bool) : FlagChange :=
  match c with
  | 'i' => { f with caseless := some on } | 'm' => { f with multiLine := some on }
  | 's' => { f with dotAll := some on } | 'U' => { f with swapGreed := some on }
  | 'u' => { f with unicode := some on } | 'R' => { f with crlf := some on }
  | 'x' => { f with ignoreBlanks := some on }
  | _ => f

end FlagChange

/-- Reads flag letters up to `:` or `)`, which stays in front of the rest. No letter may come
twice, one hyphen may clear the letters behind it, and it must not come last. -/
def flagLetters? (f : FlagChange) (clearing dangling : Bool) :
    List Char → Option (FlagChange × List Char)
  | [] => none
  | c :: rest =>
      if c = ':' ∨ c = ')' then if dangling then none else some (f, c :: rest)
      else if c = '-' then if clearing then none else flagLetters? f true true rest
      else match f.get? c with
        | some none => flagLetters? (f.put c !clearing) clearing false rest
        | _ => none

def flags? (s : List Char) : Option (FlagChange × List Char) := flagLetters? {} false false s

/-- Characters of a group name; the first one must be a letter or an underscore. -/
def isNameChar (first : Bool) (c : Char) : Bool :=
  if first then c = '_' || isAlphabetic c
  else c = '_' || c = '.' || c = '[' || c = ']' || isAlphanumeric c

def nameRest? : List Char → Option (List Char × List Char)
  | [] => none
  | c :: rest =>
      if c = '>' then some ([], rest)
      else if isNameChar false c then (nameRest? rest).map fun (n, more) => (c :: n, more)
      else none

/-- Reads a group name and the `>` behind it. -/
def groupName? : List Char → Option (List Char × List Char)
  | [] => none
  | c :: rest =>
      if isNameChar true c then (nameRest? rest).map fun (n, more) => (c :: n, more) else none

end TrafficRules.Regex
