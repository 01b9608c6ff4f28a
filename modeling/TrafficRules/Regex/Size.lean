import TrafficRules.Regex.ByteSpans
import TrafficRules.Regex.Term

/-! # Sizes of programs

A limit on expressions counts the bytes of programs in a layout of its own, in which a byte is read
at a time.

* **Steps.** Every step takes `stepSize`. A step that chooses takes `targetSize` more for each of
  its targets, and one that reads a byte takes `spanSize` more for each span, except in a literal.
* **Directions.** An expression is laid out twice: forwards with the places of its groups, and
  backwards without. A set of expressions keeps no places at all. The larger program counts.
* **Sets of scalar values.** Forwards their UTF-8 forms are a tree in which equal subtrees are laid
  out once; backwards they are a choice between rows, which share the bytes of their ends.
* **Words.** A choice between literals is a tree of their bytes. -/

namespace TrafficRules.Regex

def stepSize : Nat := 32

def targetSize : Nat := 4

def spanSize : Nat := 8

/-- A step that chooses between targets. -/
def choiceSize (targets : Nat) : Nat := stepSize + targetSize * targets

/-- A step that reads a byte of several spans. -/
def readSize (spans : Nat) : Nat := stepSize + spanSize * spans

/-- A step that reads a byte, and the step behind it. -/
def spansSize (spans : Nat) : Nat := readSize spans + stepSize

/-- How a program is laid out. -/
structure Layout where
  backward : Bool
  /-- The places of groups are kept. -/
  places : Bool
deriving DecidableEq, Repr

/-- The size of a set of scalar values. -/
def scalarsSize (backward : Bool) (s : Ranges) : Nat :=
  if s.spans.all fun span => decide (span.2 < 0x80) then spansSize s.spans.length
  else
    let rows := s.byteRows
    let nodes := ByteRow.nodes ByteRow.mostBytes rows
    let widths (nodes : List (List ByteRow)) : List Nat :=
      nodes.map fun rows => (ByteRow.byFirst rows).length
    if backward then
      choiceSize rows.length + stepSize + (widths nodes).foldl (fun n k => n + stepSize * k) 0
    else stepSize + (widths nodes.eraseDups).foldl (fun n k => n + readSize k) 0

/-! ### Words -/

/-- The runs of words between empty ones. -/
def runsOfWords : List Bytes → List (List Bytes)
  | [] => [[]]
  | [] :: rest => [] :: runsOfWords rest
  | word :: rest =>
      match runsOfWords rest with
      | [] => [[word]]
      | run :: more => (word :: run) :: more

/-- The first bytes of words, each once. -/
def firstBytes (words : List Bytes) : List UInt8 := (words.filterMap List.head?).eraseDups

/-- What is left of the words that start with a byte. -/
def wordsBehind (b : UInt8) (words : List Bytes) : List Bytes :=
  words.filterMap fun word =>
    match word with
    | [] => none
    | c :: rest => if c = b then some rest else none

/-- Words with the empty ones at their start made one. -/
def mergeLeading : List Bytes → List Bytes
  | [] :: rest => [] :: rest.dropWhile List.isEmpty
  | words => words

/-- The size of the tree of words. Each node chooses between reading on and, where a word has
ended, leaving; what comes behind that word is read in a step of its own. A node without further
bytes is left out. `depth` bounds the length of the words. -/
def wordsSize : Nat → List Bytes → Nat
  | 0, _ => 0
  | depth + 1, words =>
      if words.all List.isEmpty then 0
      else
        let words := mergeLeading words
        let runs := (runsOfWords words).filter fun run => !run.isEmpty
        let endings := words.countP List.isEmpty
        runs.foldl (fun n run =>
          let bytes := firstBytes run
          let step := if bytes.length = 1 then stepSize else readSize bytes.length
          bytes.foldl (fun n b => n + wordsSize depth (wordsBehind b run)) (n + step))
          (choiceSize (runs.length + endings))

/-- The bytes of a term that is a literal. -/
def Term.literal? : Term → Option Bytes
  | .literal bs => some bs
  | _ => none

/-- The greatest length of words. -/
def longest (words : List Bytes) : Nat := words.foldl (fun n word => max n word.length) 0

namespace Term

/-! ### Terms -/

mutual

/-- The size of the program of a term. -/
def size (l : Layout) : Term → Nat
  | .empty | .look _ => stepSize
  | .literal bs => stepSize * bs.length
  | .bytes s => spansSize s.spans.length
  | .scalars s => scalarsSize l.backward s
  | .capture _ body => body.size l + if l.places then 2 * stepSize else 0
  | .concat parts => sizes l parts
  | .alternation branches =>
      match branches.mapM literal? with
      | some words =>
          let words := if l.backward then words.map List.reverse else words
          stepSize + wordsSize (longest words) words
      | none => choiceSize branches.length + stepSize + sizes l branches
  | .repetition 0 (some 1) _ body => choiceSize 2 + stepSize + body.size l
  | .repetition 0 none _ body =>
      body.size l + if body.takesInput then choiceSize 2 else 2 * choiceSize 2 + stepSize
  | .repetition least none _ body => least * body.size l + choiceSize 2
  | .repetition least (some most) _ body =>
      (if least = 0 then stepSize else least * body.size l) +
        (if least = most then 0 else stepSize + (most - least) * (choiceSize 2 + body.size l))

def sizes (l : Layout) : List Term → Nat
  | [] => 0
  | t :: rest => t.size l + sizes l rest

end

mutual

/-- Every match starts where a condition holds. -/
def startsAt (look : Look) : Term → Bool
  | .look l => l == look
  | .repetition least _ _ body => decide (0 < least) && body.startsAt look
  | .capture _ body => body.startsAt look
  | .concat parts => firstStartsAt look parts
  | .alternation branches => allStartAt look branches
  | _ => false

def firstStartsAt (look : Look) : List Term → Bool
  | [] => false
  | t :: rest => t.startsAt look || (t.maxLength? == some 0 && firstStartsAt look rest)

def allStartAt (look : Look) : List Term → Bool
  | [] => true
  | t :: rest => t.startsAt look && allStartAt look rest

end

mutual

/-- Every match ends where a condition holds. -/
def endsAt (look : Look) : Term → Bool
  | .look l => l == look
  | .repetition least _ _ body => decide (0 < least) && body.endsAt look
  | .capture _ body => body.endsAt look
  | .concat parts => (lastEndsAt look parts).1
  | .alternation branches => allEndAt look branches
  | _ => false

/-- Whether the end of a concatenation ends at a condition, and whether it is empty in any match. -/
def lastEndsAt (look : Look) : List Term → Bool × Bool
  | [] => (false, true)
  | t :: rest =>
      let (found, bare) := lastEndsAt look rest
      (found || (bare && t.endsAt look), bare && t.maxLength? == some 0)

def allEndAt (look : Look) : List Term → Bool
  | [] => true
  | t :: rest => t.endsAt look && allEndAt look rest

end

/-- A search starts at the edge of the text from which the program reads. -/
def isAnchored (l : Layout) (t : Term) : Bool :=
  if l.backward then t.endsAt .textEnd else t.startsAt .textStart

end Term

/-! ### Programs -/

/-- The size of the program of several terms, each with a last step that accepts. -/
def programSize (l : Layout) (terms : List Term) : Nat :=
  let skipping := if terms.all (Term.isAnchored l) then stepSize else choiceSize 2 + spansSize 1
  let choice := if terms.length < 2 then 0 else choiceSize terms.length + stepSize
  let accepting := stepSize + if l.places then 2 * stepSize else 0
  terms.foldl (fun n t => n + t.size l + accepting) (skipping + choice)

/-- The size that counts for an expression. -/
def Term.programSize (t : Term) : Nat :=
  max (Regex.programSize ⟨false, true⟩ [t]) (Regex.programSize ⟨true, false⟩ [t])

/-- The size that counts for a set of expressions. -/
def setProgramSize (terms : List Term) : Nat :=
  max (programSize ⟨false, false⟩ terms) (programSize ⟨true, false⟩ terms)

end TrafficRules.Regex
