import TrafficRules.Counts
import TrafficRules.Rule

/-! # Annotating connections

Which rules a connection triggers: those in force whose filter it passes and whose patterns have all
matched often enough, but not too often. Zero bounds are unset, and a pattern has to match at
least once. -/

namespace TrafficRules

/-- A connection that has come to its end. -/
structure Connection where
  clientAddress : Address
  clientPort : UInt16
  serverAddress : Address
  servicePort : UInt16
  /-- The duration in nanoseconds. -/
  nanoseconds : Nat
  clientBytes : UInt64
  serverBytes : UInt64
deriving DecidableEq, Repr

namespace Connection

/-- The number of bytes of both sides, held at the greatest value. -/
def totalBytes (c : Connection) : UInt64 :=
  if c.clientBytes.toNat + c.serverBytes.toNat < UInt64.size then c.clientBytes + c.serverBytes
  else 0xFFFFFFFFFFFFFFFF

/-- The duration in whole milliseconds, held at the greatest value. -/
def milliseconds (c : Connection) : UInt64 :=
  UInt64.ofNat (min (c.nanoseconds / 1000000) (UInt64.size - 1))

end Connection

/-- Whether a value lies within bounds, where a greatest value of zero is no bound. -/
def within (least most value : UInt64) : Bool :=
  least ≤ value && (most = 0 || value ≤ most)

/-- Whether a connection passes a filter. -/
def Filter.passes (f : Filter) (c : Connection) : Bool :=
  (f.servicePort = 0 || f.servicePort = c.servicePort) &&
  (f.clientPort = 0 || f.clientPort = c.clientPort) &&
  (f.clientAddress = "" || f.clientIp? = some c.clientAddress) &&
  within f.minDuration f.maxDuration c.milliseconds &&
  within f.minBytes f.maxBytes c.totalBytes

/-- Whether a pattern has matched often enough and not too often. -/
def Pattern.satisfied (p : Pattern) (counts : DirectionalCounts) : Bool :=
  match p.corpusId with
  | none => false
  | some number =>
      let count := counts.count number p.direction
      max p.minOccurrences 1 ≤ count && (p.maxOccurrences = 0 || count ≤ p.maxOccurrences)

/-- Whether a connection triggers a rule. -/
def Rule.triggered (r : Rule) (c : Connection) (counts : DirectionalCounts) : Bool :=
  r.enabled && r.filter.passes c && r.patterns.all fun p => p.satisfied counts

/-- The identifiers of the rules that a connection triggers, ascending and without repetition. -/
def annotate (rules : List Rule) (c : Connection) (counts : DirectionalCounts) : List RowId :=
  (((rules.filter fun r => r.triggered c counts).map Rule.id).mergeSort (· ≤ ·)).eraseReps

end TrafficRules
