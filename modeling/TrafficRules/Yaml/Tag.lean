import TrafficRules.Yaml.Cursor

/-! # Tags and directives

A tag is written as a handle and a suffix, `!suffix`, `!!suffix` or `!name!suffix`, or in full as
`!<suffix>`; `Tag` keeps both parts, and a tag in full has an empty handle. A directive in front of
a document tells the version of the language or what a handle stands for. -/

namespace TrafficRules.Yaml

/-- A tag as written. -/
structure Tag where
  handle : List Char
  suffix : List Char
deriving DecidableEq, Repr

namespace Tag

/-- A character that may stand in a tag. Commas and brackets may only if it is written in full. -/
def isSuffixChar (full : Bool) (c : Char) : Bool :=
  isWord c || [';', '/', '?', ':', '@', '&', '=', '+', '$', '.', '%', '!', '~', '*', '\'', '(',
    ')'].contains c || (full && [',', '[', ']'].contains c)

/-- The byte of a percent sign with two digits at the start of a text. -/
def percent? : List Char → Option UInt8
  | '%' :: c :: d :: _ => do return UInt8.ofNat ((← Hex.digit? c) * 16 + (← Hex.digit? d))
  | _ => none

/-- The number of bytes of the scalar value with the given first byte. -/
def byteCount? (b : UInt8) : Option Nat :=
  if b < 0x80 then some 1
  else if b.toNat / 32 = 6 then some 2
  else if b.toNat / 16 = 14 then some 3
  else if b.toNat / 8 = 30 then some 4
  else none

/-- The bytes of `n` percent signs at the start of a text. -/
def percents? : Nat → List Char → Option Bytes
  | 0, _ => some []
  | n + 1, s => do return (← percent? s) :: (← percents? n (s.drop 3))

/-- Reads the characters of a suffix, at most `fuel` of them. Percent signs stand for bytes. -/
def suffixFrom? (full : Bool) : Nat → Cursor → Option (List Char × Cursor)
  | 0, c => some ([], c)
  | fuel + 1, c =>
      match c.rest with
      | [] => some ([], c)
      | ch :: _ =>
          if !isSuffixChar full ch then some ([], c)
          else if ch = '%' then do
            let n ← byteCount? (← percent? c.rest)
            let text ← Utf8.decode? (← percents? n c.rest)
            let (more, c) ← suffixFrom? full fuel (c.skip (3 * n))
            some (text.toList ++ more, c)
          else do
            let (more, c) ← suffixFrom? full fuel (c.skip 1)
            some (ch :: more, c)

def suffix? (full : Bool) (c : Cursor) : Option (List Char × Cursor) :=
  suffixFrom? full c.rest.length c

/-- Reads a handle: an exclamation mark, or two with a name between them, which may be empty. What
lacks the second mark is returned with its name. -/
def handle? (c : Cursor) : Option (List Char × Cursor) :=
  if c.isAt '!' then
    let name := (c.skip 1).takeWhile isWord
    let c := c.skip (name.length + 1)
    if c.isAt '!' then some ('!' :: name ++ ['!'], c.skip 1) else some ('!' :: name, c)
  else none

/-- A handle that ends in a mark of its own. -/
def isHandle (handle : List Char) : Bool := 1 < handle.length && handle.getLast? = some '!'

/-- Reads a tag. A gap must follow, or a comma inside brackets. -/
def read? (flow : Bool) (c : Cursor) : Option (Tag × Cursor) := do
  let (tag, c) ←
    if (c.skip 1).isAt '<' then do
      let (suffix, c) ← suffix? true (c.skip 2)
      if suffix.isEmpty || !c.isAt '>' then none else some (⟨[], suffix⟩, c.skip 1)
    else do
      let (handle, c) ← handle? c
      let (suffix, c) ← suffix? false c
      if isHandle handle then
        if suffix.isEmpty then none else some ((⟨handle, suffix⟩ : Tag), c)
      else
        let suffix := handle.drop 1 ++ suffix
        if suffix.isEmpty then some (⟨[], ['!']⟩, c) else some (⟨['!'], suffix⟩, c)
  if (flow && c.isAt ',') || c.gapAt 0 then some (tag, c) else none

end Tag

/-! ### Directives -/

inductive Directive where
  | version (major minor : Nat)
  | tag (handle expansion : List Char)
deriving DecidableEq, Repr

namespace Directive

/-- Reads a number of one to nine digits. -/
def number? (c : Cursor) : Option (Nat × Cursor) :=
  let digits := c.takeWhile Char.isDigit
  if digits.isEmpty || 9 < digits.length then none
  else some (digits.foldl (fun n d => n * 10 + (d.toNat - 48)) 0, c.skip digits.length)

/-- Reads the version of the language. -/
def version? (c : Cursor) : Option (Directive × Cursor) := do
  let (major, c) ← number? (c.skipWhile isBlank)
  if !c.isAt '.' then none
  let (minor, c) ← number? (c.skip 1)
  some (.version major minor, c)

/-- Reads a handle and what it stands for. -/
def tag? (c : Cursor) : Option (Directive × Cursor) := do
  let (handle, c) ← Tag.handle? (c.skipWhile isBlank)
  if !(Tag.isHandle handle || handle = ['!']) || !c.head?.any isBlank then none
  let (expansion, c) ← Tag.suffix? true (c.skipWhile isBlank)
  if expansion.isEmpty || !c.gapAt 0 then none else some (.tag handle expansion, c)

/-- Reads a directive with its line. -/
def read? (c : Cursor) : Option (Directive × Cursor) := do
  let name := (c.skip 1).takeWhile isWord
  let c := c.skip (name.length + 1)
  if !c.gapAt 0 then none
  let (directive, c) ←
    if name = ['Y', 'A', 'M', 'L'] then version? c
    else if name = ['T', 'A', 'G'] then tag? c
    else none
  some (directive, ← c.skipLineRest?)

end Directive
end TrafficRules.Yaml
