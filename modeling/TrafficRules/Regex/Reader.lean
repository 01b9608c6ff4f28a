import TrafficRules.Regex.Cursor

/-! # Reading regular expressions

`Expr.ofText?` reads the text of a regular expression.

* **Groups.** The reader keeps the parts read so far and a stack of `Frame`s: the groups that are
  open, and the branches of an alternation that is not finished. Each step (`Reader.step?`) reads
  one token and answers the new state with the rest of the text.
* **Classes.** A bracketed class is read in the same way over a stack of its own
  (`ClassReader.step?`).
* **Refusal.** Text that is malformed, or nested deeper than `depthLimit`, has no tree. -/

namespace TrafficRules.Regex

/-! ### Bracketed classes -/

/-- A class that is open, with what stood before it in the class around it, or the left side of
an operator. -/
inductive ClassFrame where
  | opened (outer : List ClassSet) (negated : Bool)
  | operator (op : SetOp) (left : ClassSet)

/-- The items of the innermost class, last one first, and the frames around it. -/
structure ClassReader where
  items : List ClassSet
  frames : List ClassFrame

/-- A class reader goes on or has read the whole class. -/
inductive ClassStep where
  | more (state : ClassReader)
  | done (negated : Bool) (set : ClassSet)

/-- The names between `[:` and `:]`. -/
def posixNames : List (String × PosixClass) := [
  ("alnum", .alnum), ("alpha", .alpha), ("ascii", .ascii), ("blank", .blank),
  ("cntrl", .cntrl), ("digit", .digit), ("graph", .graph), ("lower", .lower),
  ("print", .print), ("punct", .punct), ("space", .space), ("upper", .upper),
  ("word", .word), ("xdigit", .xdigit)]

/-- Reads `[:name:]` or `[:^name:]` behind its opening bracket. -/
def posixClass? : List Char → Option (ClassSet × List Char)
  | ':' :: rest => do
      let (negated, rest) := match rest with
        | '^' :: more => (true, more)
        | _ => (false, rest)
      let (name, more) := rest.span (· != ':')
      let kind ← posixNames.lookup (String.ofList name)
      match more with
      | ':' :: ']' :: more => some (.posix kind negated, more)
      | _ => none
  | _ => none

/-- Takes the hyphens that open a class, each of which stands for itself. -/
def leadingHyphens (x : Bool) (s : List Char) : List ClassSet × List Char :=
  match s with
  | '-' :: rest =>
      let (items, more) := leadingHyphens x (skip x rest)
      (.literal ⟨'-', false⟩ :: items, more)
  | _ => ([], s)
termination_by s.length
decreasing_by have := skip_length_le x rest; simp; omega

/-- Reads the start of a class behind its bracket: whether it is negated, and its first items. A
bracket that closes nothing yet stands for itself. -/
def classStart? (x : Bool) (s : List Char) : Option (Bool × List ClassSet × List Char) :=
  let (negated, s) := match skip x s with
    | '^' :: rest => (true, skip x rest)
    | s => (false, s)
  let (hyphens, s) := leadingHyphens x s
  let (items, s) := match hyphens, s with
    | [], ']' :: rest => ([ClassSet.literal ⟨']', false⟩], skip x rest)
    | _, _ => (hyphens, s)
  if s.isEmpty then none else some (negated, items, s)

/-- Reads one character or escape of a class. -/
def classToken? (x : Bool) : List Char → Option (Token × List Char)
  | [] => none
  | '\\' :: rest => escape? x rest
  | c :: rest => some (.literal ⟨c, false⟩, rest)

/-- A token as an item of a class; conditions on positions are none. -/
def Token.item? : Token → Option ClassSet
  | .literal l => some (.literal l)
  | .property q negated => some (.property q negated)
  | .shorthand k negated => some (.shorthand k negated)
  | .assertion _ => none

/-- Reads one item or range of a class. A hyphen makes a range unless a closing bracket or another
hyphen follows. -/
def classItem? (x : Bool) (s : List Char) : Option (ClassSet × List Char) := do
  let (token, rest) ← classToken? x s
  match skip x rest with
  | [] => none
  | '-' :: more =>
      let next := peekPast x more
      if next = some ']' ∨ next = some '-' then some (← token.item?, '-' :: more)
      else do
        let (last, more) ← classToken? x (skip x more)
        match token, last with
        | .literal a, .literal b => if a.char ≤ b.char then some (.range a b, more) else none
        | _, _ => none
  | rest => some (← token.item?, rest)

namespace ClassReader

/-- The set read so far in the innermost class, its pending operator applied, with the frames
outside of it. -/
def settle (r : ClassReader) : ClassSet × List ClassFrame :=
  let right := ClassSet.ofItems r.items.reverse
  match r.frames with
  | .operator op left :: frames => (.combine op left right, frames)
  | frames => (right, frames)

/-- Starts the right side of an operator. -/
def operator (r : ClassReader) (op : SetOp) : ClassReader :=
  let (left, frames) := r.settle
  ⟨[], .operator op left :: frames⟩

/-- Closes the innermost class. -/
def close? (r : ClassReader) : Option ClassStep :=
  match r.settle with
  | (set, [.opened _ negated]) => some (.done negated set)
  | (set, .opened outer negated :: frames) =>
      some (.more ⟨.bracketed negated set :: outer, frames⟩)
  | _ => none

/-- Opens a class inside the innermost one. -/
def open? (x : Bool) (r : ClassReader) (s : List Char) : Option (ClassReader × List Char) := do
  let (negated, items, rest) ← classStart? x s
  some (⟨items.reverse, .opened r.items negated :: r.frames⟩, rest)

/-- Reads one token of a class. -/
def step? (x : Bool) (r : ClassReader) (s : List Char) : Option (ClassStep × List Char) :=
  match skip x s with
  | [] => none
  | '[' :: rest =>
      match posixClass? rest with
      | some (item, more) => some (.more ⟨item :: r.items, r.frames⟩, more)
      | none => (open? x r rest).map fun (r, more) => (.more r, more)
  | ']' :: rest => r.close?.map fun step => (step, rest)
  | '&' :: '&' :: rest => some (.more (r.operator .intersection), rest)
  | '-' :: '-' :: rest => some (.more (r.operator .difference), rest)
  | '~' :: '~' :: rest => some (.more (r.operator .symmetricDifference), rest)
  | s => (classItem? x s).map fun (item, more) => (.more ⟨item :: r.items, r.frames⟩, more)

/-- Reads on for at most `fuel` tokens. -/
def run? (x : Bool) : Nat → ClassReader → List Char → Option (Bool × ClassSet × List Char)
  | 0, _, _ => none
  | fuel + 1, r, s =>
      match step? x r s with
      | none => none
      | some (.more r, rest) => run? x fuel r rest
      | some (.done negated set, rest) => some (negated, set, rest)

end ClassReader

/-- Reads a class behind its opening bracket. Every token takes a character, so that the length of
the text bounds their number. -/
def bracketed? (x : Bool) (s : List Char) : Option (Bool × ClassSet × List Char) := do
  let (r, rest) ← ClassReader.open? x ⟨[], []⟩ s
  r.run? x (rest.length + 1) rest

/-! ### Expressions -/

/-- A group that is open, with the parts before it and the flag `x` to go back to, or the finished
branches of an alternation, last one first. -/
inductive Frame where
  | group (outer : List Expr) (kind : GroupKind) (ignoreBlanks : Bool)
  | branches (done : List Expr)

/-- The parts read so far, last one first, with the frames around them; the flag `x`; the number
of capturing groups seen and their names. -/
structure Reader where
  parts : List Expr
  frames : List Frame
  ignoreBlanks : Bool
  captures : Nat
  names : List (List Char)

namespace Reader

def start : Reader := ⟨[], [], false, 0, []⟩

def push (r : Reader) (e : Expr) : Reader := { r with parts := e :: r.parts }

/-- Starts the next branch of an alternation. -/
def nextBranch (r : Reader) : Reader :=
  let branch := Expr.ofParts r.parts.reverse
  match r.frames with
  | .branches done :: frames => { r with parts := [], frames := .branches (branch :: done) :: frames }
  | frames => { r with parts := [], frames := .branches [branch] :: frames }

/-- The expression inside the innermost group, with the frames outside of it. -/
def inner (r : Reader) : Expr × List Frame :=
  let last := Expr.ofParts r.parts.reverse
  match r.frames with
  | .branches done :: frames => (.alternation (last :: done).reverse, frames)
  | frames => (last, frames)

/-- Opens a group. -/
def openGroup (r : Reader) (kind : GroupKind) : Reader :=
  let x := match kind with
    | .scope change => change.ignoreBlanks.getD r.ignoreBlanks
    | .capture _ => r.ignoreBlanks
  { r with parts := [], frames := .group r.parts kind r.ignoreBlanks :: r.frames, ignoreBlanks := x }

/-- Opens a capturing group. -/
def openCapture (r : Reader) : Reader :=
  { r with captures := r.captures + 1 }.openGroup (.capture (r.captures + 1))

/-- Closes the innermost group. -/
def closeGroup? (r : Reader) : Option Reader :=
  match r.inner with
  | (body, .group outer kind x :: frames) =>
      some { r with parts := .group kind body :: outer, frames := frames, ignoreBlanks := x }
  | _ => none

/-- Opens a capturing group whose name follows. -/
def openNamed? (r : Reader) (s : List Char) : Option (Reader × List Char) := do
  let (name, rest) ← groupName? s
  if r.names.contains name then none
  else some ({ r with names := name :: r.names }.openCapture, rest)

/-- Opens what an opening parenthesis starts. There is no looking around, and a flag change must
change something. -/
def openParen? (r : Reader) (s : List Char) : Option (Reader × List Char) :=
  match skip r.ignoreBlanks s with
  | '?' :: '=' :: _ | '?' :: '!' :: _ | '?' :: '<' :: '=' :: _ | '?' :: '<' :: '!' :: _ => none
  | '?' :: 'P' :: '<' :: rest => r.openNamed? rest
  | '?' :: '<' :: rest => r.openNamed? rest
  | '?' :: rest => do
      let (change, rest) ← flags? rest
      match rest with
      | ')' :: more =>
          if change = {} then none
          else
            some ({ r.push (.setFlags change) with
              ignoreBlanks := change.ignoreBlanks.getD r.ignoreBlanks }, more)
      | _ :: more => some (r.openGroup (.scope change), more)
      | [] => none
  | rest => some (r.openCapture, rest)

/-- Repeats the last part. A question mark behind the count prefers fewer repetitions. -/
def repeatLast? (r : Reader) (least : Nat) (most : Option Nat) (s : List Char) :
    Option (Reader × List Char) :=
  match r.parts with
  | [] | .setFlags _ :: _ | .empty :: _ => none
  | body :: parts =>
      let (greedy, rest) := match s with
        | '?' :: rest => (false, rest)
        | _ => (true, s)
      some ({ r with parts := .repetition least most greedy body :: parts }, rest)

/-- A token as an expression. -/
def ofToken : Token → Expr
  | .literal l => .literal l
  | .assertion a => .assertion a
  | .property q negated => .property q negated
  | .shorthand k negated => .shorthand k negated

/-- Reads one token, given its first character. -/
def step? (r : Reader) (c : Char) (rest : List Char) : Option (Reader × List Char) :=
  match c with
  | '(' => r.openParen? rest
  | ')' => r.closeGroup?.map fun r => (r, rest)
  | '|' => some (r.nextBranch, rest)
  | '[' => (bracketed? r.ignoreBlanks rest).map fun (negated, set, more) =>
      (r.push (.bracketed negated set), more)
  | '?' => r.repeatLast? 0 (some 1) rest
  | '*' => r.repeatLast? 0 none rest
  | '+' => r.repeatLast? 1 none rest
  | '\x7b' => do
      let (least, most, more) ← count? r.ignoreBlanks rest
      r.repeatLast? least most more
  | '\\' => (escape? r.ignoreBlanks rest).map fun (token, more) => (r.push (ofToken token), more)
  | '.' => some (r.push .dot, rest)
  | '^' => some (r.push (.assertion .lineStart), rest)
  | '$' => some (r.push (.assertion .lineEnd), rest)
  | c => some (r.push (.literal ⟨c, false⟩), rest)

/-- Reads on for at most `fuel` tokens, up to the end of the text. -/
def run? : Nat → Reader → List Char → Option Reader
  | 0, _, _ => none
  | fuel + 1, r, s =>
      match skip r.ignoreBlanks s with
      | [] => some r
      | c :: rest =>
          match r.step? c rest with
          | none => none
          | some (r, more) => run? fuel r more

/-- The whole expression, where no group is left open. -/
def finish? (r : Reader) : Option Expr :=
  match r.inner with
  | (e, []) => some e
  | _ => none

end Reader

/-- The tree of a regular expression's text. Every token takes a character, so that the length of
the text bounds their number. -/
def Expr.ofText? (s : List Char) : Option Expr := do
  let r ← Reader.start.run? (s.length + 1) s
  let e ← r.finish?
  if e.depth ≤ depthLimit then some e else none

end TrafficRules.Regex
