import TrafficRules.Regex.Program
import TrafficRules.Unicode.Property

/-! # Searching with a program

`Program.find?` looks for the first match of a program from a position on.

* **Threads.** At each position a list of threads is kept, the preferred one first. Taking a byte
  moves each thread on; `Program.settle` then follows all instructions that take no input and
  keeps, for each address, only the first thread that comes to it.
* **Preference.** A new thread starts at every position, behind all others, until a match is
  found. A thread that is done ends the threads behind it, so the match that remains is the one
  that starts first and, among those, the preferred one.
* **Positions.** A position is given by the bytes before it, last one first, and the bytes behind
  it. Conditions on a position see both. A set of scalar values takes the bytes of a whole scalar
  value, while its thread waits. -/

namespace TrafficRules.Regex

/-- A match: the positions where it starts and where it stops. -/
structure Span where
  start : Nat
  stop : Nat
deriving DecidableEq, Repr

/-! ### Conditions on positions -/

/-- An ASCII word character. -/
def isWordByte (b : UInt8) : Bool :=
  (48 ≤ b && b ≤ 57) || (65 ≤ b && b ≤ 90) || b == 95 || (97 ≤ b && b ≤ 122)

/-- One side of a position: whether a word character stands there, and whether the bytes there
can be read at all. -/
structure Side where
  word : Bool
  readable : Bool

/-- A side by its nearest byte. -/
def Side.ofByte (b : Option UInt8) : Side := ⟨b.any isWordByte, true⟩

/-- A side by its nearest scalar value; the end of the input is readable. -/
def Side.ofScalar (atEnd : Bool) (c : Option Char) : Side :=
  ⟨c.any Unicode.isWord, atEnd || c.isSome⟩

/-- Whether a word edge lies between two sides. Where a side must have no word character, it must
be readable. -/
def WordEdge.holds (before after : Side) : WordEdge → Bool
  | .boundary => before.word != after.word
  | .notBoundary => before.readable && after.readable && before.word == after.word
  | .start => !before.word && after.word
  | .finish => before.word && !after.word
  | .startHalf => before.readable && !before.word
  | .finishHalf => after.readable && !after.word

/-- Whether a condition holds between the bytes before a position, last one first, and the bytes
behind it. -/
def Look.holds (before after : Bytes) : Look → Bool
  | .textStart => before.isEmpty
  | .textEnd => after.isEmpty
  | .lineStart false => before.head?.all (· == 10)
  | .lineEnd false => after.head?.all (· == 10)
  | .lineStart true =>
      before.head?.all fun b => b == 10 || (b == 13 && after.head? != some 10)
  | .lineEnd true =>
      after.head?.all fun b => b == 13 || (b == 10 && before.head? != some 13)
  | .word edge false => edge.holds (.ofByte before.head?) (.ofByte after.head?)
  | .word edge true =>
      edge.holds (.ofScalar before.isEmpty (Utf8.lastScalar? before))
        (.ofScalar after.isEmpty ((Utf8.scalar? after).map Prod.fst))

/-! ### Threads -/

/-- A way through the program: the address it has come to, the position where it started, and the
number of bytes it still waits for. -/
structure Thread where
  pc : Nat
  start : Nat
  wait : Nat := 0
deriving DecidableEq, Repr

/-- The threads that remain at a position, last one first; the addresses come upon, as the bits of
a number; and where the thread started that is done. -/
structure Front where
  live : List Thread := []
  visited : Nat := 0
  done : Option Nat := none

namespace Program

/-- Follows the instructions that take no input from the addresses on the stack, at most `fuel`
of them. -/
def explore (p : Program) (before after : Bytes) (start : Nat) :
    Nat → List Nat → Front → Front
  | 0, _, front => front
  | _ + 1, [], front => front
  | fuel + 1, pc :: stack, front =>
      if front.visited.testBit pc then p.explore before after start fuel stack front
      else
        let front := { front with visited := front.visited ||| 1 <<< pc }
        match p.code[pc]? with
        | some .accept => { front with done := some start }
        | some (.jump d) => p.explore before after start fuel ((pc + d) :: stack) front
        | some (.fork ds) =>
            p.explore before after start fuel (ds.map (fun d => (pc + d : Int).toNat) ++ stack) front
        | some (.look l) =>
            let stack := if l.holds before after then (pc + 1) :: stack else stack
            p.explore before after start fuel stack front
        | some (.byte _) | some (.scalar _) =>
            p.explore before after start fuel stack
              { front with live := ⟨pc, start, 0⟩ :: front.live }
        | none => p.explore before after start fuel stack front

/-- Takes up threads in order of preference, up to the first one that is done. -/
def settle (p : Program) (before after : Bytes) : List Thread → Front → Front
  | [], front => front
  | t :: rest, front =>
      if t.wait = 0 then
        let front := p.explore before after t.start (p.edges + 1) [t.pc] front
        if front.done.isSome then front else p.settle before after rest front
      else p.settle before after rest { front with live := t :: front.live }

/-- Moves a thread over the next byte, the first of the given ones. -/
def advance (p : Program) (b : UInt8) (rest : Bytes) (t : Thread) : Option Thread :=
  if t.wait = 0 then
    match p.code[t.pc]? with
    | some (.byte set) => if set.contains b.toNat then some ⟨t.pc + 1, t.start, 0⟩ else none
    | some (.scalar set) =>
        match Utf8.scalar? (b :: rest) with
        | some (c, n) => if set.contains c.toNat then some ⟨t.pc + 1, t.start, n - 1⟩ else none
        | none => none
    | _ => none
  else some { t with wait := t.wait - 1 }

/-- Searches on from a position with the threads that have come to it. -/
def findFrom? (p : Program) (before : Bytes) (pos : Nat) (threads : List Thread)
    (best : Option Span) : Bytes → Option Span
  | [] => ((p.settle before [] threads {}).done.map fun start => ⟨start, pos⟩) <|> best
  | b :: rest =>
      let front := p.settle before (b :: rest) threads {}
      let best := (front.done.map fun start => ⟨start, pos⟩) <|> best
      let threads := front.live.reverse.filterMap (p.advance b rest)
      match best with
      | none => p.findFrom? (b :: before) (pos + 1) (threads ++ [⟨0, pos + 1, 0⟩]) none rest
      | some span =>
          if threads.isEmpty then some span
          else p.findFrom? (b :: before) (pos + 1) threads (some span) rest

/-- The first match that starts at or behind position `pos`, which lies between the bytes
`before`, last one first, and the bytes `after`. -/
def find? (p : Program) (before after : Bytes) (pos : Nat) : Option Span :=
  p.findFrom? before pos [⟨0, pos, 0⟩] none after

end Program
end TrafficRules.Regex
