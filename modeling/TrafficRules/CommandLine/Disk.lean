import TrafficRules.Store.File
import TrafficRules.Table
import TrafficRules.Text.Path

/-! # Disks

A `Disk` is what the program needs of a file system: reading a file, writing one, and replacing a
document by way of a temporary file. `Files` is a tree of directories and files held in memory.

* A spot of the tree is the list of the names that lead to it, innermost first; the root is the
  empty list and always a directory.
* `Files.place` walks a path. A walk ends where a step leaves from anything but a directory, so a
  missing directory is never passed, not even by a step upwards. -/

namespace TrafficRules

structure Disk (m : Type → Type) where
  read : String → m FileState
  /-- Writes a file, and tells whether that was possible. -/
  write : String → Bytes → m Bool
  /-- Makes the directories above a document, writes its temporary file, and puts this in its place;
  tells what stood in the way. -/
  replace : String → Bytes → m (Option Obstacle)

/-- What is at a spot. -/
inductive Item where
  | file (bytes : Bytes)
  | directory
deriving DecidableEq, Repr

structure Files where
  /-- The spot of the working directory. -/
  home : List String := []
  items : Table (List String) Item := .empty
deriving Repr

/-- Where a walk leads to. -/
inductive Place where
  | file (spot : List String) (bytes : Bytes)
  | directory (spot : List String)
  /-- Nothing, in a directory. -/
  | vacant (spot : List String)
  | unreachable
deriving DecidableEq, Repr

namespace Files

def put (files : Files) (spot : List String) (item : Item) : Files :=
  { files with items := files.items.insert spot item }

/-- The spot that a path starts from. -/
def start (files : Files) (path : String) : List String :=
  if Path.isAbsolute path then [] else files.home

/-- One step of a walk. -/
def step (files : Files) : Place → String → Place
  | .directory spot, name =>
      if name = ".." then .directory spot.tail
      else if Path.mostNameBytes < name.utf8ByteSize then .unreachable
      else match files.items.get? (name :: spot) with
        | some (.file bytes) => .file (name :: spot) bytes
        | some .directory => .directory (name :: spot)
        | none => .vacant (name :: spot)
  | _, _ => .unreachable

/-- Where a path leads to. -/
def place (files : Files) (path : String) : Place :=
  if Path.isUsable path then
    match (Path.steps path).foldl files.step (.directory (files.start path)) with
    | .directory spot => .directory spot
    | reached => if Path.asksDirectory path then .unreachable else reached
  else .unreachable

/-- What is at a path. -/
def read (files : Files) (path : String) : FileState :=
  match files.place path with
  | .file _ bytes => .content bytes
  | .directory _ => .directory
  | .vacant _ | .unreachable => .missing

/-- Writes a file, if its directory is there. -/
def write (files : Files) (path : String) (bytes : Bytes) : Bool × Files :=
  match files.place path with
  | .file spot _ | .vacant spot => (true, files.put spot (.file bytes))
  | .directory _ | .unreachable => (false, files)

def remove (files : Files) (path : String) : Files :=
  match files.place path with
  | .file spot _ => { files with items := files.items.erase spot }
  | _ => files

/-- Makes the directories on a walk, up to the first obstacle. -/
def makeDirectories : List String → List String → Files → Bool × Files
  | _, [], files => (true, files)
  | spot, name :: rest, files =>
      match files.step (.directory spot) name with
      | .directory spot => makeDirectories spot rest files
      | .vacant spot => makeDirectories spot rest (files.put spot .directory)
      | _ => (false, files)

/-- Makes the directories above a path. -/
def makeAbove (files : Files) (path : String) : Bool × Files :=
  let above := Path.above path
  if above = "" then (true, files)
  else if Path.isUsable above then makeDirectories (files.start above) (Path.steps above) files
  else (false, files)

/-- Writes a file and makes the directories above it. -/
def install (files : Files) (path : String) (bytes : Bytes) : Bool × Files :=
  match files.makeAbove path with
  | (true, files) => files.write path bytes
  | failed => failed

/-- Replaces a document by way of its temporary file. -/
def replace (files : Files) (path : String) (bytes : Bytes) : Option Obstacle × Files :=
  let temporary := Path.temporary path
  match files.makeAbove path with
  | (false, files) => (some .temporary, files)
  | (true, files) =>
      match files.write temporary bytes with
      | (false, files) => (some .temporary, files)
      | (true, files) =>
          match files.write path bytes with
          | (false, files) => (some .replacement, files)
          | (true, files) => (none, files.remove temporary)

/-- The disk of files in memory. -/
def disk : Disk (StateM Files) where
  read path := do return (← get).read path
  write path bytes := modifyGet fun files => files.write path bytes
  replace path bytes := modifyGet fun files => files.replace path bytes

end Files
end TrafficRules
