import TrafficRules.Signature

/-! # Engine configuration

How snapshots are published, and the limits of an engine. -/

namespace TrafficRules

/-- What happens to a snapshot that nobody has received when the next one is published. -/
inductive PublishMode where
  /-- The publisher waits until it is received. -/
  | blocking
  /-- It is dropped. -/
  | supersede
deriving DecidableEq, Repr

namespace PublishMode

def name : PublishMode → String
  | .blocking => "blocking"
  | .supersede => "supersede"

/-- The mode with the given name. -/
def ofName? (name : String) : Option PublishMode :=
  [PublishMode.blocking, .supersede].find? fun mode => mode.name = name

end PublishMode

/-- The limits of an engine. -/
structure EngineConfig where
  publishMode : PublishMode := .blocking
  /-- The bytes that the program of one pattern may take. -/
  patternSizeLimit : UInt64 := UInt64.ofNat Signature.defaultSizeLimit
  /-- The bytes that the programs of all patterns may take. -/
  setSizeLimit : UInt64 := 268435456
  /-- The number of patterns; zero is no limit. -/
  maxPatterns : UInt64 := 0
  /-- The number of bytes that a stream looks back. -/
  streamWindow : UInt64 := 65536
deriving DecidableEq, Repr

end TrafficRules
