import TrafficRules.Regex.Term

/-! # Matching programs

A term is laid out as a list of instructions (`Term.code`). Each instruction goes on to the one
behind it unless it says otherwise, so the code of a concatenation is the codes of its parts in
order. Targets are given as distances from the instruction itself, so code can be moved and
copied.

* **Preference.** A `fork` lists its targets from the preferred one to the last resort: the order
  of alternatives, and one more repetition before none if the repetition is greedy.
* **Repetition.** A body that always takes input is repeated by one fork in front of it. A body
  that may match the empty string is repeated by a fork behind it, with a second fork in front
  that allows none at all; so a round that takes nothing is left at once. -/

namespace TrafficRules.Regex

/-- One step of a program. -/
inductive Instr where
  | byte (set : Ranges)
  | scalar (set : Ranges)
  | look (l : Look)
  | jump (distance : Nat)
  | fork (distances : List Int)
  | accept
deriving Repr

/-- Two targets in order of preference. -/
def Instr.choose (greedy : Bool) (again leave : Int) : Instr :=
  .fork (if greedy then [again, leave] else [leave, again])

abbrev Code := List Instr

namespace Code

/-- A code `n` times in a row. -/
def times (n : Nat) (body : Code) : Code := (List.replicate n body).flatten

/-- Up to `n` rounds of a body, each behind a fork that may leave past all of them. -/
def upTo (greedy : Bool) (body : Code) : Nat → Code
  | 0 => []
  | n + 1 =>
      .choose greedy 1 ((body.length + 1) * (n + 1)) :: body ++ upTo greedy body n

/-- Any number of rounds of a body that takes input. -/
def star (greedy : Bool) (body : Code) : Code :=
  .choose greedy 1 (body.length + 2) :: body ++ [.fork [-(body.length + 1)]]

/-- One or more rounds of a body. -/
def plus (greedy : Bool) (body : Code) : Code := body ++ [.choose greedy (-body.length) 1]

/-- Zero or one round of a body. -/
def optional (greedy : Bool) (body : Code) : Code := upTo greedy body 1

/-- Where branches start, the first of them at `pos`, and where the last one ends. A jump follows on
each. -/
def starts (pos : Nat) : List Code → List Nat × Nat
  | [] => ([], pos)
  | first :: rest =>
      let (later, stop) := starts (pos + first.length + 1) rest
      (pos :: later, stop)

/-- Branches from `pos` on, each of which leaves to `stop`. -/
def branches (stop pos : Nat) : List Code → Code
  | [] => []
  | first :: rest =>
      let next := pos + first.length + 1
      first ++ .jump (stop + 1 - next) :: branches stop next rest

/-- A choice between branches, in order of preference. -/
def choice (codes : List Code) : Code :=
  let (targets, stop) := starts 1 codes
  .fork (targets.map Int.ofNat) :: branches stop 1 codes

end Code

namespace Term

mutual

/-- The instructions of a term; behind the last one the term is matched. -/
def code : Term → Code
  | .empty => []
  | .literal bs => bs.map fun b => .byte (.single b.toNat)
  | .bytes set => [.byte set]
  | .scalars set => [.scalar set]
  | .look l => [.look l]
  | .capture _ body => body.code
  | .concat parts => (codes parts).flatten
  | .alternation branches => .choice (codes branches)
  | .repetition least (some most) greedy body =>
      Code.times least body.code ++ Code.upTo greedy body.code (most - least)
  | .repetition 0 none greedy body =>
      if body.takesInput then .star greedy body.code else .optional greedy (.plus greedy body.code)
  | .repetition (least + 1) none greedy body =>
      Code.times least body.code ++ Code.plus greedy body.code

def codes : List Term → List Code
  | [] => []
  | t :: rest => t.code :: codes rest

end

end Term

/-- The instructions of a program, which starts at address zero, and the number of its edges:
how many addresses an exploration of the whole program can come upon. -/
structure Program where
  code : Array Instr
  edges : Nat
deriving Repr

/-- The number of addresses that an instruction leads to without taking input. -/
def Instr.edges : Instr → Nat
  | .look _ | .jump _ => 1
  | .fork distances => distances.length
  | _ => 0

namespace Program

/-- The program with the given instructions. -/
def ofCode (code : Code) : Program := ⟨code.toArray, code.foldl (fun n i => n + i.edges) 0⟩

/-- The program of a term. -/
def ofTerm (t : Term) : Program := ofCode (t.code ++ [.accept])

end Program
end TrafficRules.Regex
