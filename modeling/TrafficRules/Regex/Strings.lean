import TrafficRules.Regex.Term

/-! # Terms that are few strings

A term that stands for a short list of strings is searched for without a program, so that no limit
on programs applies to it (`Term.isStrings`).

* **Openings.** `Term.openings` lists what matches start with, in order of preference. An opening is
  exact if it is a whole match. Where there would be too many, nothing is said about openings at
  all.
* **Choice.** Openings that only narrow a search may be shortened for its sake: to a rare first
  byte, to a long common start, or to five bytes and less. Strings for which that is done are
  searched for with a program. -/

namespace TrafficRules.Regex

/-- What a match starts with. -/
structure Opening where
  bytes : Bytes
  /-- It is a whole match. -/
  exact : Bool := true
deriving DecidableEq, Repr

/-- Openings in order of preference, or nothing about them. -/
abbrev Openings := Option (List Opening)

namespace Opening

/-- The most values of a set whose members are listed. -/
def mostMembers : Nat := 10

/-- The most rounds of a repetition that are followed. -/
def mostRounds : Nat := 10

/-- The most bytes of an opening. -/
def mostBytes : Nat := 100

/-- The most openings of a term. -/
def most : Nat := 250

/-- The number of literals from which on a choice between them is always searched for as strings. -/
def manyWords : Nat := 3000

def blur (o : Opening) : Opening := { o with exact := false }

/-- The first bytes. -/
def cut (length : Nat) (o : Opening) : Opening :=
  if o.bytes.length ≤ length then o else ⟨o.bytes.take length, false⟩

/-- Joins equal neighbours, which are exact if both are. -/
def joinEqual : List Opening → List Opening
  | [] => []
  | o :: rest =>
      match joinEqual rest with
      | [] => [o]
      | next :: more =>
          if o.bytes = next.bytes then { o with exact := o.exact && next.exact } :: more
          else o :: next :: more

/-- Leaves out what starts with a preferred opening. -/
def preferred (openings : List Opening) : List Opening :=
  openings.foldl (fun kept o =>
    if kept.any fun k => k.bytes.isPrefixOf o.bytes then kept else kept ++ [o]) []

/-- The bytes that two strings start with. -/
def shared : Bytes → Bytes → Bytes
  | a :: as, b :: bs => if a = b then a :: shared as bs else []
  | _, _ => []

/-- The bytes that all openings start with. -/
def common : List Opening → Bytes
  | [] => []
  | o :: rest => rest.foldl (fun bytes o => shared bytes o.bytes) o.bytes

/-- The bytes that are frequent in text and in programs. -/
def frequentBytes : Ranges :=
  ⟨[(10, 10), (13, 13), (32, 32), (40, 41), (44, 50), (57, 58), (95, 95), (97, 105), (108, 112),
    (114, 118), (120, 121), (124, 124), (128, 132), (144, 144), (177, 177), (181, 183), (185, 189),
    (191, 255)]⟩

def isRare (b : UInt8) : Bool := !frequentBytes.contains b.toNat

end Opening

namespace Openings

open Opening

/-- No opening is a whole match, so nothing that follows can be added to them. -/
def isFixed (o : Openings) : Bool := o.all fun os => os.all fun x => !x.exact

def blur (o : Openings) : Openings := o.map fun os => os.map Opening.blur

def cut (length : Nat) (o : Openings) : Openings := o.map fun os => os.map (Opening.cut length)

/-- Openings whose numbers come to at most `most`. -/
def within (f : Nat → Nat → Nat) : Openings → Openings → Bool
  | some xs, some ys => f xs.length ys.length ≤ most
  | _, _ => true

/-- The openings of two terms in a row. -/
def cross (a b : Openings) : Openings :=
  let b := if within (· * ·) a b then b else none
  cut mostBytes <|
    match a, b with
    | none, _ => none
    | some xs, none => if xs.any fun x => x.bytes.isEmpty then none else blur (some xs)
    | some xs, some ys =>
        some <| joinEqual <| xs.flatMap fun x =>
          if x.exact then ys.map fun y => ⟨x.bytes ++ y.bytes, y.exact⟩ else [x]

/-- The openings of a choice between two terms. Where there are too many they are shortened. -/
def unite (a b : Openings) : Openings :=
  let shorten (o : Openings) : Openings :=
    if within (· + ·) a b then o else (cut 4 o).map joinEqual
  match shorten a, shorten b with
  | some xs, some ys =>
      if within (· + ·) (some xs) (some ys) then some (joinEqual (xs ++ ys)) else none
  | _, _ => none

/-- Adds rounds of a body to openings. -/
def rounds (body : Openings) : Nat → Openings → Openings
  | 0, o => o
  | n + 1, o => if o.isFixed then o else rounds body n (o.cross body)

end Openings

namespace Term

open Opening

/-- The members of a set of at most `mostMembers`. -/
def members? (s : Ranges) : Option (List Nat) :=
  let count := s.spans.foldl (fun n (lo, hi) => n + (hi + 1 - lo)) 0
  if mostMembers < count then none
  else some (s.spans.flatMap fun (lo, hi) => (List.range (hi + 1 - lo)).map (lo + ·))

/-- The opening that is the empty match. -/
def emptyOpening : Openings := some [⟨[], true⟩]

mutual

/-- What matches of a term start with. -/
def openings : Term → Openings
  | .empty | .look _ => emptyOpening
  | .literal bs => Openings.cut mostBytes (some [⟨bs, true⟩])
  | .bytes s => (members? s).map fun ns => ns.map fun n => ⟨[UInt8.ofNat n], true⟩
  | .scalars s =>
      (members? s).map fun ns => ns.map fun n => ⟨String.utf8EncodeChar (Char.ofNat n), true⟩
  | .repetition 0 most greedy body =>
      let first := if most = some 1 then body.openings else body.openings.blur
      if greedy then first.unite emptyOpening else emptyOpening.unite first
  | .repetition least most _ body =>
      let all := Openings.rounds body.openings (min least mostRounds) emptyOpening
      if most = some least ∧ least ≤ mostRounds then all else all.blur
  | .capture _ body => body.openings
  | .concat parts => openingsOfConcat emptyOpening parts
  | .alternation branches => openingsOfChoice (some []) branches

def openingsOfConcat (o : Openings) : List Term → Openings
  | [] => o
  | t :: rest => if o.isFixed then o else openingsOfConcat (o.cross t.openings) rest

def openingsOfChoice (o : Openings) : List Term → Openings
  | [] => o
  | t :: rest => if o.isNone then o else openingsOfChoice (o.unite t.openings) rest

end

mutual

/-- A term without conditions on positions and without groups. -/
def isBare : Term → Bool
  | .look _ | .capture _ _ => false
  | .repetition _ _ _ body => body.isBare
  | .concat parts => areBare parts
  | .alternation branches => areBare branches
  | _ => true

def areBare : List Term → Bool
  | [] => true
  | t :: rest => t.isBare && areBare rest

end

/-- Shortens more openings than are good for a search. -/
def shortened (os : List Opening) : List Opening :=
  let rec go (os : List Opening) : List (Nat × Nat) → List Opening
    | [] => os
    | (keep, few) :: rest =>
        if os.length ≤ few then os else go (preferred (os.map (Opening.cut keep))) rest
  go os [(5, 10), (4, 10), (3, 64), (2, 64), (1, 10)]

/-- Openings that are searched for as they stand and are whole matches. -/
def areStrings (all : List Opening) : Bool :=
  let exact (os : List Opening) : Bool := os.all Opening.exact
  let cutTo (length : Nat) (os : List Opening) : List Opening :=
    joinEqual (os.map (Opening.cut length))
  if all.isEmpty || all.any fun o => o.bytes.isEmpty then false
  else
    let kept := preferred all
    let start := common kept
    if 1 < all.length ∧ start.length ≤ 3 ∧ start.head?.any isRare then exact (cutTo 1 kept)
    else
      let isFast := exact kept && kept.length ≤ 16
      let kept :=
        if 4 < start.length ∨ (1 < start.length ∧ !isFast) then cutTo start.length kept else kept
      let few := shortened kept
      exact kept &&
        (exact few || few.any (fun o => o.bytes.length ≤ 2) || decide (64 < few.length))

/-- A term that is searched for as a list of strings. -/
def isStrings (t : Term) : Bool :=
  t.isBare && (t.openings.any areStrings ||
    match t with
    | .alternation branches => decide (manyWords ≤ branches.length) && branches.all isLiteral
    | _ => false)
where
  isLiteral : Term → Bool
    | .literal _ => true
    | _ => false

end Term
end TrafficRules.Regex
