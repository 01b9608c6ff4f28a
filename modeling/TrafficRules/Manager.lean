import TrafficRules.Annotation
import TrafficRules.Engine.Distributor
import TrafficRules.Engine.Stream
import TrafficRules.Registry
import TrafficRules.Store.Basic

/-! # Managing rules

`Manager` keeps the registry, the published engine and the store in step.

* **Adding.** A rule is checked and its engine built first, so that a rule that is refused leaves no
  trace but a used identifier. Then it comes into force and the engine is published, and last it
  is stored. If the store fails, the rule is taken out of force again; its signatures stay.
* **Changing.** A change comes into force first and is taken back if the store fails.
* **Loading.** Stored rules come into force in order; those that are refused are passed over. If no
  engine can be built for them, none comes into force.
* **Waiting.** A call that comes to publish where a publisher has to wait stays there until a subscriber
  has taken the pending snapshot; nobody sees the rules in the meantime. What comes of it is what it
  returns then. A call that comes to publish nothing never waits. -/

namespace TrafficRules

structure Manager where
  registry : Registry
  ids : RowId.Generator := {}
  distributor : Distributor
  store : Store
  config : EngineConfig
deriving Repr

/-- What a manager counts. -/
structure ManagerStats where
  rules : Nat
  enabledRules : Nat
  patterns : Nat
  engineVersion : Option RowId
deriving DecidableEq, Repr

namespace Manager

/-- A manager over a store, without any rule in force. -/
def new (store : Store) (config : EngineConfig) : Manager where
  registry := { sizeLimit := config.patternSizeLimit.toNat }
  distributor := { mode := config.publishMode }
  store := store
  config := config

/-! ### Loading -/

/-- A load in progress: the registry, the identifiers, and the rule that came into force last. -/
structure Progress where
  registry : Registry
  ids : RowId.Generator
  last : Option RowId := none

/-- Takes the next stored rule; one that is refused is passed over. -/
def Progress.take (p : Progress) (rule : Rule) : Progress :=
  let p := { p with ids := p.ids.observe rule.id }
  match p.registry.register rule with
  | .ok (id, registry) => { p with registry := registry, last := some id }
  | .error _ => p

/-- Walks the stored rules. -/
def walk (m : Manager) (stored : List Rule) : Progress :=
  stored.foldl Progress.take { registry := m.registry, ids := m.ids }

/-- Brings the stored rules into force. -/
def load (m : Manager) : Except Fault Unit × Manager :=
  match m.store.findAll with
  | .error fault => (.error fault, m)
  | .ok stored =>
      let p := m.walk stored
      let observed := { m with ids := p.ids }
      match p.last with
      | none => (.ok (), observed)
      | some version =>
          match Engine.build p.registry.corpus.signatures m.config with
          | .error fault => (.error fault, observed)
          | .ok engine =>
              let registered := { observed with registry := p.registry }
              match m.distributor.awaited.publish ⟨engine, version⟩ with
              | .error fault => (.error fault, registered)
              | .ok distributor => (.ok (), { registered with distributor := distributor })

/-! ### Adding -/

/-- What adding a rule does before the store is asked: the rule as admitted, the registry and the
distributor. -/
def enact (m : Manager) (rule : Rule) : Except Fault (Rule × Registry × Distributor) := do
  let admission ← m.registry.prepare rule
  let engine ← Engine.build (m.registry.corpus.signatures ++ admission.staged) m.config
  let (id, registry) ← m.registry.commit admission
  let distributor ← m.distributor.awaited.publish ⟨engine, id⟩
  return (admission.rule, registry, distributor)

/-- Adds a rule at the given second. -/
def add (m : Manager) (now : UInt32) (ctx : WriteContext) (draft : Draft) :
    Except Fault RowId × Manager :=
  let (id, ids) := m.ids.next now
  let m := { m with ids := ids }
  match m.enact (draft.toRule id) with
  | .error fault => (.error fault, m)
  | .ok (rule, registry, distributor) =>
      let (result, store) := m.store.insert ctx rule
      let m := { m with distributor := distributor, store := store }
      match result with
      | .error fault => (.error fault, { m with registry := registry.remove id })
      | .ok () => (.ok id, { m with registry := registry })

/-- The name of the rule that marks stolen flags. -/
def flagRuleName : String := "flag"

/-- The rule that marks connections where what the server sends matches an expression. -/
def flagDraft (regex : String) : Draft where
  name := flagRuleName
  color := "#ff0000"
  notes := "Mark connections where the flag is stolen"
  patterns := [{ regex := regex, direction := .toClient }]

/-- Adds the rule that marks stolen flags. -/
def addFlag (m : Manager) (now : UInt32) (ctx : WriteContext) (regex : String) :
    Except Fault RowId × Manager :=
  m.add now ctx (flagDraft regex)

/-! ### Changing -/

/-- Takes back a change that could not be stored. -/
def takeBack (m : Manager) (old : Rule) : Manager :=
  match m.registry.revert old with
  | .ok (_, registry) => { m with registry := registry }
  | .error _ => m

/-- Sets name and colour of a rule, and tells whether there is one. -/
def update (m : Manager) (ctx : WriteContext) (id : RowId) (name color : String) :
    Except Fault Bool × Manager :=
  match m.registry.update id name color with
  | .error fault => (.error fault, m)
  | .ok (none, _) => (.ok false, m)
  | .ok (some old, registry) =>
      let (result, store) := m.store.update ctx id ⟨name, color, old.version + 1⟩
      let m := { m with registry := registry, store := store }
      match result with
      | .ok true => (.ok true, m)
      | .ok false => (.error (.store (.notStored id)), m.takeBack old)
      | .error fault => (.error fault, m.takeBack old)

/-! ### Asking -/

/-- The identifiers of the rules that a connection triggers. -/
def annotate (m : Manager) (c : Connection) (counts : DirectionalCounts) : List RowId :=
  TrafficRules.annotate m.registry.list c counts

def stats (m : Manager) : ManagerStats where
  rules := m.registry.size
  enabledRules := (m.registry.list.filter Rule.enabled).length
  patterns := m.registry.corpus.size
  engineVersion := m.distributor.latest.map Snapshot.version

/-- Takes the pending snapshot. -/
def receive (m : Manager) : Option Snapshot × Manager :=
  let (snapshot, distributor) := m.distributor.receive
  (snapshot, { m with distributor := distributor })

end Manager
end TrafficRules
