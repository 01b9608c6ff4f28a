import TrafficRules.Document.Rule
import TrafficRules.Store.Context

/-! # Rules in a file

`FileStore` keeps rules in one JSON document, an object with the member `rules`.

* **Entries.** The document is kept as JSON values. An entry that is no rule is passed over when
  rules are listed, and written back as it was. `entryId?` is the identifier by which an entry is
  found.
* **Writing.** A change writes the whole document anew: into a temporary file first, which then
  takes the place of the document. The write is checked before and behind the temporary file, which
  is left behind where it cannot take that place. -/

namespace TrafficRules

/-- What is at the place of a file. -/
inductive FileState where
  | missing
  | directory
  | content (bytes : Bytes)
deriving DecidableEq, Repr

/-- What stands in the way of a write. -/
inductive Obstacle where
  /-- The temporary file cannot be written. -/
  | temporary
  /-- The temporary file cannot take the place of the document. -/
  | replacement
deriving DecidableEq, Repr

structure FileStore where
  file : FileState := .missing
  /-- The temporary file, while there is one. -/
  temporary : Option Bytes := none
  /-- What stands in the way of every write. -/
  obstacle : Option Obstacle := none
deriving DecidableEq, Repr

namespace FileStore

/-! ### The document -/

/-- The entries of a tree: of an object with at most one member `rules`, or of a sequence with at
most one item in place of it. -/
def entriesOf? : Json.Node → Option (List Json)
  | .object members =>
      if members.any fun m => m.1.isNone then none
      else match members.filter fun m => m.1 = some "rules" with
        | [] => some []
        | [(_, x)] => items? x
        | _ => none
  | .array [] => some []
  | .array [x] => items? x
  | _ => none
where
  /-- The values of a sequence inside two levels. -/
  items? : Json.Node → Option (List Json)
    | .array items => Json.ofNodes? (Json.depthLimit - 2) items
    | _ => none

def isBlank (text : String) : Bool := text.toList.all Unicode.isWhite

/-- The entries of the document with the given bytes. -/
def entriesOfBytes (bytes : Bytes) : Except Fault (List Json) :=
  match Utf8.decode? bytes with
  | none => .error .file
  | some text =>
      if isBlank text then .ok []
      else match (Json.Node.ofText? text.toList).bind entriesOf? with
        | some entries => .ok entries
        | none => .error (.store .unreadableDocument)

/-- The entries of the document; there are none without a document. -/
def entries (s : FileStore) : Except Fault (List Json) :=
  match s.file with
  | .missing => .ok []
  | .directory => .error .file
  | .content bytes => entriesOfBytes bytes

/-- The bytes of the document with the given entries. -/
def documentBytes (entries : List Json) : Bytes :=
  Utf8.encode ((Json.ofMembers [("rules", .array entries)]).prettyText 0)

/-- Writes the document, unless the context forbids it before or behind the temporary file, or
something stands in the way. -/
def write (s : FileStore) (ctx : WriteContext) (entries : List Json) :
    Except Fault Unit × FileStore :=
  match ctx.check 0 with
  | .error fault => (.error fault, s)
  | .ok () =>
      if s.obstacle = some .temporary then (.error .file, s)
      else
        let bytes := documentBytes entries
        let s := { s with temporary := some bytes }
        match ctx.check 1 with
        | .error fault => (.error fault, { s with temporary := none })
        | .ok () =>
            if s.obstacle = some .replacement then (.error .file, s)
            else (.ok (), { s with file := .content bytes, temporary := none })

/-! ### Rules -/

/-- The identifier by which an entry is found. -/
def entryId? (entry : Json) : Option RowId := do
  RowId.ofText? (← (← entry.member? "id").string?)

/-- The rules that can be read, ascending by identifier. -/
def findAll (s : FileStore) : Except Fault (List Rule) := do
  let entries ← s.entries
  return (entries.filterMap Rule.ofJson?).mergeSort fun a b => a.id ≤ b.id

/-- Stores a new rule behind all entries. -/
def insert (s : FileStore) (ctx : WriteContext) (rule : Rule) : Except Fault Unit × FileStore :=
  match s.entries with
  | .error fault => (.error fault, s)
  | .ok entries =>
      if entries.any fun entry => entryId? entry = some rule.id then
        (.error (.store (.alreadyStored rule.id)), s)
      else s.write ctx (entries ++ [rule.json])

/-- The entries with the first one of an identifier changed; none if there is no such entry. -/
def change (id : RowId) (u : Update) : List Json → Except Fault (Option (List Json))
  | [] => .ok none
  | entry :: rest =>
      if entryId? entry = some id then
        match Rule.ofJson? entry with
        | none => .error (.store (.unreadableRule id))
        | some rule => .ok (some ((u.apply rule).json :: rest))
      else (change id u rest).map fun changed => changed.map (entry :: ·)

/-- Changes a stored rule, and tells whether there is one. -/
def update (s : FileStore) (ctx : WriteContext) (id : RowId) (u : Update) :
    Except Fault Bool × FileStore :=
  match s.entries.bind (change id u) with
  | .error fault => (.error fault, s)
  | .ok none => (.ok false, s)
  | .ok (some entries) =>
      let (result, s) := s.write ctx entries
      (result.map fun _ => true, s)

end FileStore
end TrafficRules
