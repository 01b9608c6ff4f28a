import TrafficRules.Regex.Expr
import TrafficRules.Regex.Term
import TrafficRules.Unicode.Property
import TrafficRules.Unicode.Folding

/-! # Applying flags

`Expr.term? mode e` is the term that an expression means under the given flags, or `none` where
it asks for what its flags do not allow.

* **Unicode mode.** With it, dots and classes match scalar values and `\xNN` is a character;
  without it they match bytes, `\xNN` is a byte, and neither `\p` nor a class with a character
  beyond ASCII is allowed.
* **Case.** Without regard to case, every character and every class is closed under case before
  it is negated or combined. The shorthand classes are closed already.
* **Scope.** A flag change inside a group ends with the group and goes on over the branches of
  an alternation that come after it. -/

namespace TrafficRules.Regex

/-- The flags in force at one place of an expression. -/
structure Mode where
  caseless : Bool := false
  multiLine : Bool := false
  dotAll : Bool := false
  swapGreed : Bool := false
  unicode : Bool := true
  crlf : Bool := false
deriving DecidableEq, Repr

namespace Mode

/-- The flags after a change. -/
def apply (m : Mode) (f : FlagChange) : Mode where
  caseless := f.caseless.getD m.caseless
  multiLine := f.multiLine.getD m.multiLine
  dotAll := f.dotAll.getD m.dotAll
  swapGreed := f.swapGreed.getD m.swapGreed
  unicode := f.unicode.getD m.unicode
  crlf := f.crlf.getD m.crlf

/-- Closes a set under case where case does not count. -/
def fold (m : Mode) (r : Ranges) : Ranges :=
  if !m.caseless then r else if m.unicode then r.foldScalars else r.foldBytes

/-- Negates a set within the scalar values or the bytes. -/
def negate (m : Mode) (negated : Bool) (r : Ranges) : Ranges :=
  if !negated then r else if m.unicode then r.complementScalars else r.complementBytes

/-- The term of a set of scalar values or of bytes. -/
def setTerm (m : Mode) (r : Ranges) : Term := if m.unicode then .ofScalars r else .ofBytes r

end Mode

/-! ### Classes -/

/-- The ASCII characters of a class in brackets and colons. -/
def PosixClass.ranges : PosixClass → Ranges
  | .alnum => ⟨[(48, 57), (65, 90), (97, 122)]⟩
  | .alpha => ⟨[(65, 90), (97, 122)]⟩
  | .ascii => ⟨[(0, 127)]⟩
  | .blank => ⟨[(9, 9), (32, 32)]⟩
  | .cntrl => ⟨[(0, 31), (127, 127)]⟩
  | .digit => ⟨[(48, 57)]⟩
  | .graph => ⟨[(33, 126)]⟩
  | .lower => ⟨[(97, 122)]⟩
  | .print => ⟨[(32, 126)]⟩
  | .punct => ⟨[(33, 47), (58, 64), (91, 96), (123, 126)]⟩
  | .space => ⟨[(9, 13), (32, 32)]⟩
  | .upper => ⟨[(65, 90)]⟩
  | .word => ⟨[(48, 57), (65, 90), (95, 95), (97, 122)]⟩
  | .xdigit => ⟨[(48, 57), (65, 70), (97, 102)]⟩

/-- The characters of a shorthand class, in Unicode mode or in ASCII. -/
def Shorthand.ranges (unicode : Bool) : Shorthand → Ranges
  | .digit => if unicode then Unicode.digitRanges else PosixClass.digit.ranges
  | .space => if unicode then Unicode.spaceRanges else PosixClass.space.ranges
  | .word => if unicode then Unicode.wordRanges else PosixClass.word.ranges

/-- What a property query finds, in Unicode mode only. -/
def PropertyQuery.ranges? (m : Mode) (q : PropertyQuery) : Option Ranges :=
  if !m.unicode then none
  else match q with
    | .named name => Unicode.named? name
    | .valued property value => Unicode.valued? property value

/-- The number that a literal adds to a class: without Unicode mode only ASCII characters and
bytes in the form `\xNN` can be members. -/
def Literal.member? (m : Mode) (l : Literal) : Option Nat :=
  if m.unicode || l.hexPair || l.char.toNat < 0x80 then some l.char.toNat else none

/-- Applies an operator between two sets. -/
def SetOp.apply (m : Mode) (op : SetOp) (left right : Ranges) : Ranges :=
  let outside := m.negate true
  let both := outside ((outside left).union (outside right))
  match op with
  | .intersection => both
  | .difference => outside ((outside left).union right)
  | .symmetricDifference => outside ((outside (left.union right)).union both)

mutual

/-- The set that a class stands for. -/
def ClassSet.ranges? (m : Mode) : ClassSet → Option Ranges
  | .empty => some .empty
  | .literal l => (l.member? m).map .single
  | .range first last => do some (.ofSpans [((← first.member? m), (← last.member? m))])
  | .posix kind negated => some (m.negate negated (m.fold kind.ranges))
  | .property q negated => do some (m.negate negated (m.fold (← q.ranges? m)))
  | .shorthand kind negated => some (m.negate negated (kind.ranges m.unicode))
  | .bracketed negated inner => do some (m.negate negated (m.fold (← inner.ranges? m)))
  | .union items => ClassSet.unionOf? m items
  | .combine op left right => do
      some (op.apply m (m.fold (← left.ranges? m)) (m.fold (← right.ranges? m)))

def ClassSet.unionOf? (m : Mode) : List ClassSet → Option Ranges
  | [] => some .empty
  | item :: rest => do some ((← item.ranges? m).union (← ClassSet.unionOf? m rest))

end

/-! ### Single positions -/

/-- The term of a character that stands for itself. -/
def Literal.term (m : Mode) (l : Literal) : Term :=
  let n := l.char.toNat
  if !m.unicode && l.hexPair && 0x80 ≤ n then .literal [UInt8.ofNat n]
  else
    let set := if m.unicode || n < 0x80 then m.fold (.single n) else .single n
    if set = .single n then .literal (String.utf8EncodeChar l.char) else m.setTerm set

/-- The term of a dot: any character or byte, line ends left out unless all are asked for. -/
def Mode.dot (m : Mode) : Term :=
  let excluded : Ranges :=
    if m.dotAll then .empty else if m.crlf then ⟨[(10, 10), (13, 13)]⟩ else .single 10
  m.setTerm (m.negate true excluded)

/-- The condition that an assertion stands for. -/
def Assertion.look (m : Mode) : Assertion → Look
  | .lineStart => if m.multiLine then .lineStart m.crlf else .textStart
  | .lineEnd => if m.multiLine then .lineEnd m.crlf else .textEnd
  | .textStart => .textStart
  | .textEnd => .textEnd
  | .wordBoundary => .word .boundary m.unicode
  | .notWordBoundary => .word .notBoundary m.unicode
  | .wordStart => .word .start m.unicode
  | .wordEnd => .word .finish m.unicode
  | .wordStartHalf => .word .startHalf m.unicode
  | .wordEndHalf => .word .finishHalf m.unicode

/-! ### Expressions -/

mutual

/-- The term of an expression, with the flags in force behind it. -/
def Expr.resolve? (m : Mode) : Expr → Option (Term × Mode)
  | .empty => some (.empty, m)
  | .setFlags change => some (.empty, m.apply change)
  | .literal l => some (l.term m, m)
  | .dot => some (m.dot, m)
  | .assertion a => some (.look (a.look m), m)
  | .property q negated => do
      some (.ofScalars (m.negate negated (m.fold (← q.ranges? m))), m)
  | .shorthand kind negated => some (m.setTerm (m.negate negated (kind.ranges m.unicode)), m)
  | .bracketed negated inner => do
      some (m.setTerm (m.negate negated (m.fold (← inner.ranges? m))), m)
  | .repetition least most greedy body => do
      let (t, m) ← body.resolve? m
      some (.rep least most (greedy != m.swapGreed) t, m)
  | .group (.capture index) body => do some (.capture index (← body.resolve? m).1, m)
  | .group (.scope change) body => do some ((← body.resolve? (m.apply change)).1, m)
  | .concat parts => do
      let (ts, m) ← Expr.resolveAll? m parts
      some (.cat ts, m)
  | .alternation branches => do
      let (ts, m) ← Expr.resolveAll? m branches
      some (.alt ts, m)

/-- The terms of expressions in order, each under the flags that the ones before leave. -/
def Expr.resolveAll? (m : Mode) : List Expr → Option (List Term × Mode)
  | [] => some ([], m)
  | e :: rest => do
      let (t, m) ← e.resolve? m
      let (ts, m) ← Expr.resolveAll? m rest
      some (t :: ts, m)

end

/-- The term of a whole expression under the given flags. -/
def Expr.term? (m : Mode) (e : Expr) : Option Term := (e.resolve? m).map Prod.fst

end TrafficRules.Regex
