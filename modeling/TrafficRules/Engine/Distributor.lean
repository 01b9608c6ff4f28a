import TrafficRules.Engine.Basic

/-! # Publishing engines

A `Distributor` hands engines to subscribers through a slot for one `Snapshot`. Whoever receives
first empties the slot; `latest` is what was published last, received or not.

In blocking mode a snapshot is published only into an empty slot, so that none is lost: a publisher
waits until the pending one has been received (`Distributor.awaited`). Otherwise it supersedes the one
that is pending. -/

namespace TrafficRules

/-- An engine as it was when the rule with the given identifier came into force. -/
structure Snapshot where
  engine : Engine
  version : RowId
deriving Repr

/-- The number of signatures. -/
def Snapshot.size (s : Snapshot) : Nat := s.engine.size

structure Distributor where
  mode : PublishMode
  pending : Option Snapshot := none
  latest : Option Snapshot := none
deriving Repr

namespace Distributor

/-- Whether a publisher would have to wait. -/
def mustWait (d : Distributor) : Bool := d.mode = .blocking && d.pending.isSome

/-- Publishes a snapshot. -/
def publish (d : Distributor) (s : Snapshot) : Except Fault Distributor :=
  if d.mustWait then .error .slotTaken
  else .ok { d with pending := some s, latest := some s }

/-- Takes the pending snapshot, if there is one. -/
def receive (d : Distributor) : Option Snapshot × Distributor :=
  (d.pending, { d with pending := none })

/-- What a publisher finds in the end: one that has to wait does so until some subscriber has taken the
pending snapshot. -/
def awaited (d : Distributor) : Distributor := if d.mustWait then d.receive.2 else d

end Distributor
end TrafficRules
