import TrafficRules.Yaml.Scalar

/-! # YAML documents

`read?` reads a text with at most one document. Every token is asked what may follow it:

* **Nodes** have properties in front of them, an anchor and a tag in either order. Where a node is
  missing, an empty plain scalar stands for it.
* **Blocks** are sequences of entries or mappings of keys and values. The entries of a sequence that
  is a value need not be indented further than its key.
* **Brackets** hold items or members, divided by commas. A single member among items is a mapping.
* **Anchors** name the node that follows, from its start on, so that it may even hold an alias of
  itself. A name given twice means the later node. -/

namespace TrafficRules.Yaml

open Document (Node)

/-- The state between two nodes: the tokens ahead, the anchors with their numbers, latest first,
the nodes by number, and what the handles of tags stand for. -/
structure Reading where
  tokens : List Token
  anchors : List (List Char × Nat) := []
  count : Nat := 0
  nodes : List (Nat × Node) := []
  handles : List (List Char × List Char) := []

abbrev Reader := StateT Reading Option

namespace Reader

def refuse {α : Type} : Reader α := fun _ => none

def peek : Reader Token := do return (← get).tokens.headD .streamEnd

def skip : Reader Unit := modify fun r => { r with tokens := r.tokens.drop 1 }

/-- Takes a token that must come next. -/
def expect (t : Token) : Reader Unit := do if (← peek) = t then skip else refuse

/-- The anchor and the tag in front of a node. -/
structure Properties where
  anchor : Option (List Char) := none
  tag : Option Tag := none

/-- Takes the properties of a node, each at most once. -/
def properties : Reader Properties := do
  match ← peek with
  | .anchor name =>
      skip
      match ← peek with
      | .tag t => skip; return ⟨some name, some t⟩
      | _ => return ⟨some name, none⟩
  | .tag t =>
      skip
      match ← peek with
      | .anchor name => skip; return ⟨some name, some t⟩
      | _ => return ⟨none, some t⟩
  | _ => return {}

/-- The tag in full. -/
def resolve (t : Tag) : Reader String := do
  if t.handle.isEmpty then return String.ofList t.suffix
  match (← get).handles.lookup t.handle with
  | some expansion => return String.ofList (expansion ++ t.suffix)
  | none => refuse

/-- Gives a name to the node that is about to be read. -/
def anchor (name : Option (List Char)) : Reader (Option Nat) := do
  match name with
  | none => return none
  | some name =>
      let n := (← get).count
      modify fun r => { r with anchors := (name, n) :: r.anchors, count := n + 1 }
      return some n

/-- Keeps a node under its number. -/
def keep (number : Option Nat) (x : Node) : Reader Node := do
  match number with
  | none => return x
  | some n =>
      modify fun r => { r with nodes := (n, x) :: r.nodes }
      return x

/-- The text of a key. -/
def keyText (x : Node) : Reader (Option String) := do
  match x with
  | .scalar s => return s.text
  | .alias n =>
      match (← get).nodes.lookup n with
      | some (.scalar s) => return s.text
      | _ => return none
  | _ => return none

def emptyNode : Node := .scalar (scalarOf "" .plain none)

/-- Reads a node with `read`; if one of the given tokens comes next, the node is missing. -/
def nodeBefore (stops : List Token) (read : Reader Node) : Reader Node := do
  if (← peek) ∈ stops then return emptyNode else read

/-! ### Nodes -/

/-- A node that has properties only. -/
def bare (p : Properties) (tag : Option String) (number : Option Nat) : Reader Node :=
  if p.anchor.isSome || tag.isSome then keep number (.scalar (scalarOf "" .plain tag)) else refuse

mutual

/-- Reads a node. `block` allows blocks, and `aligned` a sequence that is not indented. -/
def node : Nat → Bool → Bool → Reader Node
  | 0, _, _ => refuse
  | fuel + 1, block, aligned => do
      match ← peek with
      | .alias name =>
          skip
          match (← get).anchors.lookup name with
          | some n => return .alias n
          | none => refuse
      | _ =>
          let p ← properties
          let tag ← p.tag.mapM resolve
          let number ← anchor p.anchor
          match ← peek with
          | .scalar text style =>
              skip
              let tag := if tag = some "!" then none else tag
              keep number (.scalar (scalarOf (String.ofList text) style tag))
          | .flowSequenceStart =>
              skip
              keep number (.sequence (← flowItems fuel true))
          | .flowMappingStart =>
              skip
              keep number (.mapping (← flowMembers fuel true))
          | .blockEntry =>
              if aligned then keep number (.sequence (← alignedItems fuel)) else bare p tag number
          | .blockSequenceStart =>
              if block then
                skip
                keep number (.sequence (← blockItems fuel))
              else bare p tag number
          | .blockMappingStart =>
              if block then
                skip
                keep number (.mapping (← blockMembers fuel))
              else bare p tag number
          | _ => bare p tag number

/-- Reads the entries of a block up to its end. -/
def blockItems : Nat → Reader (List Node)
  | 0 => refuse
  | fuel + 1 => do
      match ← peek with
      | .blockEntry =>
          skip
          let x ← nodeBefore [.blockEntry, .blockEnd] (node fuel true false)
          return x :: (← blockItems fuel)
      | .blockEnd => skip; return []
      | _ => refuse

/-- Reads entries that are not indented, up to another token. -/
def alignedItems : Nat → Reader (List Node)
  | 0 => refuse
  | fuel + 1 => do
      match ← peek with
      | .blockEntry =>
          skip
          let x ← nodeBefore [.blockEntry, .key, .value, .blockEnd] (node fuel true false)
          return x :: (← alignedItems fuel)
      | _ => return []

/-- Reads the members of a block up to its end. -/
def blockMembers : Nat → Reader (List (Option String × Node))
  | 0 => refuse
  | fuel + 1 => do
      match ← peek with
      | .key =>
          skip
          let key ← keyText (← nodeBefore [.key, .value, .blockEnd] (node fuel true true))
          let x ← if (← peek) = .value then do
              skip
              nodeBefore [.key, .value, .blockEnd] (node fuel true true)
            else pure emptyNode
          return (key, x) :: (← blockMembers fuel)
      | .blockEnd => skip; return []
      | _ => refuse

/-- Reads the items inside brackets. -/
def flowItems : Nat → Bool → Reader (List Node)
  | 0, _ => refuse
  | fuel + 1, first => do
      if (← peek) = .flowSequenceEnd then skip; return []
      if !first then expect .flowEntry
      match ← peek with
      | .flowSequenceEnd => skip; return []
      | .key =>
          skip
          let member ← flowPair fuel
          return .mapping [member] :: (← flowItems fuel false)
      | _ =>
          let x ← node fuel false false
          return x :: (← flowItems fuel false)

/-- Reads a single member among items, behind its mark. Where its key is missing, the next token is
passed over. -/
def flowPair : Nat → Reader (Option String × Node)
  | 0 => refuse
  | fuel + 1 => do
      let key ← if (← peek) ∈ [.value, .flowEntry, .flowSequenceEnd] then do skip; pure emptyNode
        else node fuel false false
      let key ← keyText key
      let x ← if (← peek) = .value then do
          skip
          nodeBefore [.flowEntry, .flowSequenceEnd] (node fuel false false)
        else pure emptyNode
      return (key, x)

/-- Reads the members inside braces. -/
def flowMembers : Nat → Bool → Reader (List (Option String × Node))
  | 0, _ => refuse
  | fuel + 1, first => do
      if (← peek) = .flowMappingEnd then skip; return []
      if !first then expect .flowEntry
      match ← peek with
      | .flowMappingEnd => skip; return []
      | .key =>
          skip
          let key ← keyText
            (← nodeBefore [.value, .flowEntry, .flowMappingEnd] (node fuel false false))
          let x ← if (← peek) = .value then do
              skip
              nodeBefore [.flowEntry, .flowMappingEnd] (node fuel false false)
            else pure emptyNode
          return (key, x) :: (← flowMembers fuel false)
      | _ =>
          let key ← keyText (← node fuel false false)
          return (key, emptyNode) :: (← flowMembers fuel false)

end

/-! ### Documents -/

/-- Takes the directives in front of a document, at most `fuel` of them. -/
def directives : Nat → Bool → Reader Unit
  | 0, _ => refuse
  | fuel + 1, versioned => do
      match ← peek with
      | .directive (.version major minor) =>
          skip
          if versioned || major ≠ 1 || (minor ≠ 1 && minor ≠ 2) then refuse
          directives fuel true
      | .directive (.tag handle expansion) =>
          skip
          let r ← get
          if (r.handles.lookup handle).isSome then refuse
          set { r with handles := (handle, expansion) :: r.handles }
          directives fuel versioned
      | _ => return ()

/-- The handles that need no directive. -/
def usualHandles : List (List Char × List Char) :=
  [(['!'], ['!']), (['!', '!'], (coreTag "").toList)]

/-- Reads the only document, up to the end of the stream. -/
def document : Reader Node := do
  let fuel := (← get).tokens.length + 1
  if (← peek) = .streamEnd then return emptyNode
  let started := (← peek) = .documentStart || (match ← peek with | .directive _ => true | _ => false)
  if started then
    directives fuel false
    expect .documentStart
  modify fun r => { r with handles := r.handles ++ usualHandles }
  let x ← match ← peek with
    | .directive _ => if started then pure emptyNode else refuse
    | t =>
        if started && t ∈ [.documentStart, .documentEnd, .streamEnd] then pure emptyNode
        else node (2 * fuel) true false
  modify fun r => { r with tokens := r.tokens.dropWhile (· = .documentEnd) }
  expect .streamEnd
  return x

end Reader

/-- Reads a text by a reader of nodes. -/
def read? {α : Type} (read : Source → Node → Option α) (text : String) : Option α := do
  let (x, r) ← Reader.document.run { tokens := ← tokens? text.toList }
  let named := (List.range r.count).map fun n => (r.nodes.lookup n).getD Reader.emptyNode
  read { language := .yaml, named := named } x

end TrafficRules.Yaml
