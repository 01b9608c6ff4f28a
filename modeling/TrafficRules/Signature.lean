import TrafficRules.Pattern

/-! # Signatures

A signature is a pattern made ready for an engine.

* **Canonical form.** `/regex/` with one letter for each flag, in a fixed order. Patterns with the
  same canonical form are the same signature.
* **Set expression.** Within a set of expressions each one carries its flags in its own text
  (`setExpression`), and must still be readable in that form.
* **Literals.** An expression without special characters is looked for as a plain string, unless
  its case folding goes beyond ASCII (`literal?`).
* **Refusal.** What would match the empty input is no signature, since it would match at every
  position of every stream. -/

namespace TrafficRules

structure Signature where
  regexText : String
  flags : Flags
  canonical : String
  expression : String
  literal : Option Bytes
  regex : Regex
  /-- The regular expression of the set expression. -/
  setRegex : Regex
deriving Repr

namespace Signature

/-- The letters of the flags that are set. -/
def flagLetters (f : Flags) : List Char :=
  (if f.caseless then ['i'] else []) ++ (if f.dotAll then ['s'] else []) ++
  (if f.multiLine then ['m'] else []) ++ (if f.singleMatch then ['H'] else []) ++
  (if f.utf8 then ['8'] else []) ++ (if f.unicodeProperty then ['W'] else [])

/-- The form that identifies a pattern. -/
def canonicalForm (regex : String) (f : Flags) : String :=
  String.ofList ('/' :: regex.toList ++ '/' :: flagLetters f)

/-- The expression with its flags in the text. -/
def setExpression (regex : String) (f : Flags) : String :=
  String.ofList
    (['(', '?'] ++ (if f.caseless then ['i'] else []) ++ (if f.dotAll then ['s'] else []) ++
      (if f.multiLine then ['m'] else []) ++ (if f.unicode then ['u'] else ['-', 'u']) ++
      [')', '(', '?', ':'] ++ regex.toList ++ [')'])

/-- The bytes of an expression that stands for itself. The search for plain strings folds ASCII
letters only. -/
def literal? (regex : String) (f : Flags) : Option Bytes :=
  if regex.toList.any Regex.isMeta then none
  else if f.caseless ∧ (f.unicode ∨ regex.toList.any fun c => 0x80 ≤ c.toNat) then none
  else some (Utf8.bytesOf regex)

/-- The size that a program may have unless the configuration says otherwise. -/
def defaultSizeLimit : Nat := 10 * 1024 * 1024

/-- Makes a pattern ready for an engine, within a limit on the size of its program. -/
def compile (limit : Nat) (p : Pattern) : Except Fault Signature := do
  p.validate.mapError .invalid
  let regex ← (Regex.ofText p.flags.mode limit p.regex.toList).mapError (.notCompiled p.regex)
  let canonical := canonicalForm p.regex p.flags
  if regex.matches? [] then throw (.unusable canonical .matchesEmpty)
  let expression := setExpression p.regex p.flags
  let setRegex ← (Regex.ofText {} limit expression.toList).mapError fun _ =>
    Fault.unusable canonical .notCombinable
  return {
    regexText := p.regex
    flags := p.flags
    canonical := canonical
    expression := expression
    literal := literal? p.regex p.flags
    regex := regex
    setRegex := setRegex }

end Signature
end TrafficRules
