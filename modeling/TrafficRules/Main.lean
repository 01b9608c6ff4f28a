import Std.Time.DateTime.Timestamp
import TrafficRules.CommandLine.Run

/-! # The program

`main` runs a call of the program on the disk of the machine, at the present second. -/

namespace TrafficRules.CommandLine

/-- The error code of an attempt to read a directory. -/
def directoryCode : UInt32 := 21

/-- What is at a path of the machine. -/
def readPath (path : String) : IO FileState := do
  try
    return .content (← IO.FS.readBinFile path).toList
  catch e =>
    match e with
    | .inappropriateType _ code _ => return if code = directoryCode then .directory else .missing
    | _ => return .missing

/-- Writes a file of the machine. -/
def writePath (path : String) (bytes : Bytes) : IO Bool := do
  try
    IO.FS.writeBinFile path (ByteArray.mk bytes.toArray)
    return true
  catch _ => return false

/-- Replaces a document of the machine by way of its temporary file. -/
def replacePath (path : String) (bytes : Bytes) : IO (Option Obstacle) := do
  let above := Path.above path
  let temporary := Path.temporary path
  try
    unless above = "" do IO.FS.createDirAll above
    IO.FS.writeBinFile temporary (ByteArray.mk bytes.toArray)
  catch _ => return some .temporary
  try
    IO.FS.rename temporary path
  catch _ => return some .replacement
  return none

/-- The disk of the machine. -/
def machineDisk : Disk IO := ⟨readPath, writePath, replacePath⟩

/-- The present second. -/
def presentSecond : IO UInt32 := do
  return UInt32.ofNat (← Std.Time.Timestamp.now).toSecondsSinceUnixEpoch.val.toNat

end TrafficRules.CommandLine

open TrafficRules.CommandLine in
def main (args : List String) : IO UInt32 := do
  let outcome ← run machineDisk (← presentSecond) args
  IO.print outcome.stdout
  if let some message := outcome.error then IO.eprintln ("Error: " ++ message)
  while outcome.watches do IO.sleep 1000
  return UInt32.ofNat outcome.exit
