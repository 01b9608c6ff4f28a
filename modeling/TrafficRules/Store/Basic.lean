import TrafficRules.Store.File
import TrafficRules.Store.Memory

/-! # Stores

A `Store` keeps rules beyond the life of a registry, in memory or in a file. A write that fails
leaves the stored rules as they were. -/

namespace TrafficRules

inductive Store where
  | memory (s : MemoryStore)
  | file (s : FileStore)
deriving DecidableEq, Repr

namespace Store

/-- The store behind an obstacle. Memory meets none. -/
def obstruct (store : Store) (obstacle : Obstacle) : Store :=
  match store with
  | .memory s => .memory s
  | .file s => .file { s with obstacle := some obstacle }

/-- The stored rules, ascending by identifier. -/
def findAll : Store → Except Fault (List Rule)
  | .memory s => .ok s.rules
  | .file s => s.findAll

/-- Stores a new rule. -/
def insert (store : Store) (ctx : WriteContext) (rule : Rule) : Except Fault Unit × Store :=
  match store with
  | .memory s =>
      match s.insert ctx rule with
      | .ok s => (.ok (), .memory s)
      | .error fault => (.error fault, .memory s)
  | .file s =>
      let (result, s) := s.insert ctx rule
      (result, .file s)

/-- Changes a stored rule, and tells whether there is one. -/
def update (store : Store) (ctx : WriteContext) (id : RowId) (u : Update) :
    Except Fault Bool × Store :=
  match store with
  | .memory s =>
      match s.update ctx id u with
      | .ok (found, s) => (.ok found, .memory s)
      | .error fault => (.error fault, .memory s)
  | .file s =>
      let (result, s) := s.update ctx id u
      (result, .file s)

end Store
end TrafficRules
