import TrafficRules.Corpus
import TrafficRules.Rule

/-! # The registry of rules

`Registry` holds the rules in force, an index of their names, and the corpus of their signatures.

* **Admission.** A rule is admitted in two steps. `Registry.prepare` checks it, makes its patterns
  ready and works out which numbers they will have, without a change to the registry.
  `Registry.commit` puts the result into force, unless the corpus has grown or the name or the
  identifier has been taken since. `Registry.register` does both.
* **Changes.** `Registry.update` sets name and colour of a rule and counts its version up;
  `Registry.revert` takes such a change back as long as no further one came after it.
* **The index.** `Registry.isConsistent` tells whether each rule is found by its name and no name
  leads elsewhere. -/

namespace TrafficRules

structure Registry where
  rules : Table RowId Rule := .empty
  byName : Table String RowId := .empty
  corpus : Corpus := {}
  /-- The size that the program of one pattern may have. -/
  sizeLimit : Nat := Signature.defaultSizeLimit
deriving Repr

/-- A rule that has been checked, with its patterns numbered. -/
structure Admission where
  rule : Rule
  /-- The signatures that are new to the corpus, in order. -/
  staged : List Signature
  /-- The size of the corpus when the rule was checked. -/
  base : Nat
deriving Repr

namespace Registry

/-- The rule with an identifier. -/
def get? (r : Registry) (id : RowId) : Option Rule := r.rules.get? id

/-- The rule with a name. -/
def getByName? (r : Registry) (name : String) : Option Rule := (r.byName.get? name).bind r.get?

/-- The rules, ascending by identifier. -/
def list (r : Registry) : List Rule := r.rules.values.mergeSort fun a b => a.id ≤ b.id

/-- The number of rules. -/
def size (r : Registry) : Nat := r.rules.size

/-! ### Admission -/

/-- Neither the name nor the identifier of a rule is taken. -/
def checkFree (r : Registry) (rule : Rule) : Except Fault Unit :=
  if r.byName.contains rule.name then .error (.nameTaken rule.name)
  else if r.rules.contains rule.id then .error (.invalid (.idTaken rule.id))
  else .ok ()

/-- Makes patterns ready and numbers them. `staged` holds the new signatures so far, and `seen` the
canonical forms of the patterns before. -/
def stage (r : Registry) (staged : List Signature) (seen : List String) :
    List Pattern → Except Fault (List Pattern × List Signature)
  | [] => .ok ([], staged)
  | p :: rest => do
      let s ← Signature.compile r.sizeLimit p
      if s.canonical ∈ seen then throw (.patternRepeated s.canonical)
      let (n, staged) := match r.corpus.lookup? s.canonical with
        | some n => (n, staged)
        | none => (r.corpus.size + staged.length, staged ++ [s])
      let (patterns, staged) ← r.stage staged (s.canonical :: seen) rest
      return ({ p with corpusId := some n } :: patterns, staged)

/-- Checks a rule and numbers its patterns. -/
def prepare (r : Registry) (rule : Rule) : Except Fault Admission := do
  r.checkFree rule
  rule.validate.mapError .invalid
  let (patterns, staged) ← r.stage [] [] rule.patterns
  return { rule := { rule with patterns := patterns }, staged := staged, base := r.corpus.size }

/-- Puts a checked rule into force. -/
def commit (r : Registry) (a : Admission) : Except Fault (RowId × Registry) := do
  if a.base ≠ r.corpus.size then throw (.invalid (.staleAdmission a.rule.id))
  r.checkFree a.rule
  return (a.rule.id, { r with
    rules := r.rules.insert a.rule.id a.rule
    byName := r.byName.insert a.rule.name a.rule.id
    corpus := r.corpus.registerAll a.staged })

/-- Checks a rule and puts it into force. -/
def register (r : Registry) (rule : Rule) : Except Fault (RowId × Registry) := do
  r.commit (← r.prepare rule)

/-! ### Changes -/

/-- The index without the entry of a rule, if the entry is its own. -/
def forget (names : Table String RowId) (rule : Rule) : Table String RowId :=
  if names.get? rule.name = some rule.id then names.erase rule.name else names

/-- Puts a rule in the place of the one with its identifier. -/
def replace (r : Registry) (rule : Rule) : Registry :=
  let names := match r.get? rule.id with
    | some old => forget r.byName old
    | none => r.byName
  { r with rules := r.rules.insert rule.id rule, byName := names.insert rule.name rule.id }

/-- Takes a rule out of force; its signatures stay. -/
def remove (r : Registry) (id : RowId) : Registry :=
  match r.get? id with
  | some old => { r with rules := r.rules.erase id, byName := forget r.byName old }
  | none => r

/-- Sets name and colour of a rule, and gives the rule as it was before. -/
def update (r : Registry) (id : RowId) (name color : String) :
    Except Fault (Option Rule × Registry) :=
  match r.get? id with
  | none => .ok (none, r)
  | some old => do
      match r.byName.get? name with
      | some owner => if owner ≠ id then throw (.nameTaken name)
      | none => pure ()
      (validateName name).mapError .invalid
      (validateColor color).mapError .invalid
      match Rule.nextVersion? old.version with
      | none => throw .outOfRange
      | some version =>
          let new := { old with name := name, color := color, version := version }
          return (some old, r.replace new)

/-- Puts a rule back as it was before its last change, and tells whether that was the last one. -/
def revert (r : Registry) (old : Rule) : Except Fault (Bool × Registry) :=
  match r.get? old.id with
  | none => .ok (false, r)
  | some current =>
      match Rule.nextVersion? old.version with
      | none => .error .outOfRange
      | some version =>
          if current.version = version then .ok (true, r.replace old) else .ok (false, r)

/-! ### The index -/

/-- Each rule has one name, and each name leads to the rule that has it. -/
def isConsistent (r : Registry) : Bool :=
  r.byName.size == r.rules.size &&
    r.byName.entries.all fun (name, id) => (r.get? id).map Rule.name = some name

end Registry
end TrafficRules
