import TrafficRules.Rule
import TrafficRules.Store.Context

/-! # Rules in memory

`MemoryStore` keeps rules ascending by identifier. Rules with the same identifier stay in the order
in which they were given. -/

namespace TrafficRules

structure MemoryStore where
  rules : List Rule := []
  /-- Every write fails. -/
  failing : Bool := false
deriving DecidableEq, Repr

namespace MemoryStore

/-- The store of the given rules. -/
def ofRules (rules : List Rule) : MemoryStore where
  rules := rules.mergeSort fun a b => a.id ≤ b.id

/-- The first rule with an identifier. -/
def get? (s : MemoryStore) (id : RowId) : Option Rule := s.rules.find? fun r => r.id = id

def checkWrite (s : MemoryStore) (ctx : WriteContext) : Except Fault Unit := do
  ctx.check 0
  if s.failing then throw (.store .unavailable)

/-- Puts a rule before the first one with a greater identifier. -/
def place (rule : Rule) : List Rule → List Rule
  | [] => [rule]
  | r :: rest => if rule.id < r.id then rule :: r :: rest else r :: place rule rest

/-- Stores a new rule. -/
def insert (s : MemoryStore) (ctx : WriteContext) (rule : Rule) : Except Fault MemoryStore := do
  s.checkWrite ctx
  if s.rules.any fun r => r.id = rule.id then throw (.store (.alreadyStored rule.id))
  return { s with rules := place rule s.rules }

/-- Changes the first rule with an identifier. -/
def change (id : RowId) (u : Update) : List Rule → List Rule
  | [] => []
  | r :: rest => if r.id = id then u.apply r :: rest else r :: change id u rest

/-- Changes a stored rule, and tells whether there is one. -/
def update (s : MemoryStore) (ctx : WriteContext) (id : RowId) (u : Update) :
    Except Fault (Bool × MemoryStore) := do
  s.checkWrite ctx
  if (s.get? id).isSome then return (true, { s with rules := change id u s.rules })
  return (false, s)

end MemoryStore
end TrafficRules
