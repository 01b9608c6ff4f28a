import TrafficRules.Counts
import TrafficRules.Engine.Basic

/-! # Streams

A `Stream` takes the bytes of one side of a connection in chunks and reports matches with offsets
into all that it was given.

* **History.** It keeps the last `window` bytes and one more, which is context only. A match that
  reaches further back is not found.
* **Reports.** Each chunk is searched together with the history. What ends in the history was
  reported before; what starts before the end of the last match reported for the same signature
  is passed over; and a signature may ask to be reported once only.
* **Ranges.** Offsets have 64 bits and counts have 32. `Stream.scan` gives up where one would leave
  its range; the bytes of the chunk and the matches up to there remain noted. -/

namespace TrafficRules

/-- What a stream remembers of a signature: where its last match ended, and whether it has been
reported for good. -/
structure Track where
  lastEnd : Nat := 0
  fired : Bool := false
deriving DecidableEq, Repr

structure Stream where
  engine : Engine
  /-- The number of bytes to look back. -/
  window : UInt64
  /-- The history. -/
  buffer : Bytes := []
  /-- The number of bytes before the history. -/
  base : Nat := 0
  tracks : List Track
  counts : Counts := .empty
deriving Repr

namespace Stream

/-- A fresh stream that looks back by at least one byte. -/
def new (e : Engine) (window : UInt64) : Stream where
  engine := e
  window := max window 1
  tracks := List.replicate e.size {}

/-- The number of bytes taken. -/
def position (s : Stream) : Nat := s.base + s.buffer.length

/-- The least offset that is too great. -/
def offsetBound : Nat := UInt64.size

/-- Notes a match, given by places in the buffer, and tells whether it is reported. `previous` is the
length of the history. -/
def note (s : Stream) (previous : Nat) (m : Match) : Stream × Except Fault (Option Match) :=
  if m.stop ≤ previous then (s, .ok none)
  else if offsetBound ≤ m.stop + s.base then (s, .error .outOfRange)
  else
    let m : Match := ⟨m.number, m.start + s.base, m.stop + s.base⟩
    let single := s.engine.isSingleMatch m.number
    match s.tracks[m.number]? with
    | none => (s, .error .outOfRange)
    | some t =>
        if m.start < t.lastEnd then (s, .ok none)
        else if single && t.fired then (s, .ok none)
        else
          let s := { s with tracks := s.tracks.set m.number ⟨m.stop, single⟩ }
          match s.counts.increment m.number with
          | .error fault => (s, .error fault)
          | .ok counts => ({ s with counts := counts }, .ok (some m))

/-- Notes matches in order, up to one that fails. -/
def noteAll (s : Stream) (previous : Nat) : List Match → Stream × Except Fault (List Match)
  | [] => (s, .ok [])
  | m :: rest =>
      match s.note previous m with
      | (s, .error fault) => (s, .error fault)
      | (s, .ok none) => s.noteAll previous rest
      | (s, .ok (some m)) =>
          let (s, later) := s.noteAll previous rest
          (s, later.map (m :: ·))

/-- Drops what lies further back than the window and one byte. -/
def trim (s : Stream) : Except Fault Stream :=
  if offsetBound ≤ s.window.toNat + 1 then .error .outOfRange
  else
    let excess := s.buffer.length - (s.window.toNat + 1)
    if offsetBound ≤ s.base + excess then .error .outOfRange
    else .ok { s with buffer := s.buffer.drop excess, base := s.base + excess }

/-- Takes a chunk and reports the matches that end in it. -/
def scan (s : Stream) (chunk : Bytes) : Stream × Except Fault (List Match) :=
  let previous := s.buffer.length
  let s := { s with buffer := s.buffer ++ chunk }
  let context := if 0 < s.base then 1 else 0
  match s.noteAll previous (s.engine.scanFrom s.buffer context) with
  | (s, .error fault) => (s, .error fault)
  | (s, .ok found) =>
      match s.trim with
      | .error fault => (s, .error fault)
      | .ok s => (s, .ok found)

/-- Takes chunks in order, up to one that fails. -/
def scanAll (s : Stream) : List Bytes → Stream × Except Fault (List Match)
  | [] => (s, .ok [])
  | chunk :: rest =>
      match s.scan chunk with
      | (s, .error fault) => (s, .error fault)
      | (s, .ok found) =>
          let (s, later) := s.scanAll rest
          (s, later.map (found ++ ·))

end Stream

/-- Opens a stream that looks back as the configuration says. -/
def Engine.openStream (e : Engine) : Stream := .new e e.window

end TrafficRules
