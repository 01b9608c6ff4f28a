import TrafficRules.Document.Node
import TrafficRules.Engine.Config
import TrafficRules.Rule

/-! # Rules in documents

How rules and their parts are read from documents, and written as JSON.

* **Reading.** The `ofNode?` functions list the fields of a record in the order in which a sequence
  gives them. The corpus number of a pattern is no field: what is read is not registered.
* **Writing.** The `json` functions write every field, whatever its value.

`Rule.ofJson? r.json` is `r` without corpus numbers. -/

namespace TrafficRules

open Document (Node Fields)

/-! ### Reading -/

/-- Reads an identifier in its text form. -/
def RowId.ofNode? (src : Source) (x : Node) : Option RowId := (src.text? x).bind RowId.ofText?

/-- Reads a direction by its number. -/
def Direction.ofNode? (src : Source) (x : Node) : Option Direction :=
  (src.natural? UInt8.size x).bind Direction.ofNat?

def Flags.fieldNames : List String :=
  ["caseless", "dot_all", "multi_line", "single_match", "utf_8_mode", "unicode_property"]

def Flags.ofNode? (src : Source) (x : Node) : Option Flags := do
  let fields ← src.fields? fieldNames x
  let flag := fun name => fields.optional name src.bool? false
  return {
    caseless := ← flag "caseless"
    dotAll := ← flag "dot_all"
    multiLine := ← flag "multi_line"
    singleMatch := ← flag "single_match"
    utf8 := ← flag "utf_8_mode"
    unicodeProperty := ← flag "unicode_property" }

def Pattern.fieldNames : List String :=
  ["regex", "flags", "min_occurrences", "max_occurrences", "direction"]

def Pattern.ofNode? (src : Source) (x : Node) : Option Pattern := do
  let fields ← src.fields? fieldNames x
  return {
    regex := ← fields.required "regex" src.text?
    flags := ← fields.optional "flags" (Flags.ofNode? src) {}
    minOccurrences := ← fields.optional "min_occurrences" src.uint32? 0
    maxOccurrences := ← fields.optional "max_occurrences" src.uint32? 0
    direction := ← fields.optional "direction" (Direction.ofNode? src) .both }

def Filter.fieldNames : List String :=
  ["service_port", "client_address", "client_port", "min_duration", "max_duration", "min_bytes",
    "max_bytes"]

def Filter.ofNode? (src : Source) (x : Node) : Option Filter := do
  let fields ← src.fields? fieldNames x
  return {
    servicePort := ← fields.optional "service_port" src.uint16? 0
    clientAddress := ← fields.optional "client_address" src.text? ""
    clientPort := ← fields.optional "client_port" src.uint16? 0
    minDuration := ← fields.optional "min_duration" src.uint64? 0
    maxDuration := ← fields.optional "max_duration" src.uint64? 0
    minBytes := ← fields.optional "min_bytes" src.uint64? 0
    maxBytes := ← fields.optional "max_bytes" src.uint64? 0 }

def Rule.fieldNames : List String :=
  ["id", "name", "color", "notes", "enabled", "patterns", "filter", "version"]

def Rule.ofNode? (src : Source) (x : Node) : Option Rule := do
  let fields ← src.fields? fieldNames x
  return {
    id := ← fields.required "id" (RowId.ofNode? src)
    name := ← fields.required "name" src.text?
    color := ← fields.required "color" src.text?
    notes := ← fields.optional "notes" src.text? ""
    enabled := ← fields.optional "enabled" src.bool? false
    patterns := ← fields.optional "patterns" (src.sequence? (Pattern.ofNode? src)) []
    filter := ← fields.optional "filter" (Filter.ofNode? src) {}
    version := ← fields.optional "version" src.int64? 0 }

def Draft.fieldNames : List String := ["name", "color", "notes", "patterns", "filter"]

def Draft.ofNode? (src : Source) (x : Node) : Option Draft := do
  let fields ← src.fields? fieldNames x
  return {
    name := ← fields.required "name" src.text?
    color := ← fields.required "color" src.text?
    notes := ← fields.optional "notes" src.text? ""
    patterns := ← fields.optional "patterns" (src.sequence? (Pattern.ofNode? src)) []
    filter := ← fields.optional "filter" (Filter.ofNode? src) {} }

def Update.fieldNames : List String := ["name", "color", "version"]

def Update.ofNode? (src : Source) (x : Node) : Option Update := do
  let fields ← src.fields? fieldNames x
  return {
    name := ← fields.required "name" src.text?
    color := ← fields.required "color" src.text?
    version := ← fields.required "version" src.int64? }

def PublishMode.ofNode? (src : Source) (x : Node) : Option PublishMode :=
  (src.choice? x).bind PublishMode.ofName?

def EngineConfig.fieldNames : List String :=
  ["publish_mode", "pattern_size_limit", "set_size_limit", "max_patterns", "stream_window"]

def EngineConfig.ofNode? (src : Source) (x : Node) : Option EngineConfig := do
  let fields ← src.fields? fieldNames x
  let usual : EngineConfig := {}
  return {
    publishMode := ← fields.optional "publish_mode" (PublishMode.ofNode? src) usual.publishMode
    patternSizeLimit :=
      ← fields.optional "pattern_size_limit" src.uint64? usual.patternSizeLimit
    setSizeLimit := ← fields.optional "set_size_limit" src.uint64? usual.setSizeLimit
    maxPatterns := ← fields.optional "max_patterns" src.uint64? usual.maxPatterns
    streamWindow := ← fields.optional "stream_window" src.uint64? usual.streamWindow }

/-- Values of JSON, where each key counts once. -/
def Source.json : Source := { language := .json }

/-- Reads a JSON value as a record. -/
def Rule.ofJson? (x : Json) : Option Rule := ofNode? .json x.document

/-- Reads a JSON text by a reader of nodes. -/
def Json.read? {α : Type} (read : Source → Document.Node → Option α) (text : String) : Option α :=
  (Json.Node.ofText? text.toList).bind fun x => read .json x.document

/-! ### Writing -/

def RowId.json (id : RowId) : Json := .string id.text

def Direction.json (d : Direction) : Json := .integer d.toNat

def Flags.json (f : Flags) : Json :=
  .ofMembers [
    ("caseless", .bool f.caseless), ("dot_all", .bool f.dotAll), ("multi_line", .bool f.multiLine),
    ("single_match", .bool f.singleMatch), ("utf_8_mode", .bool f.utf8),
    ("unicode_property", .bool f.unicodeProperty)]

def Pattern.json (p : Pattern) : Json :=
  .ofMembers [
    ("regex", .string p.regex), ("flags", p.flags.json),
    ("min_occurrences", .integer p.minOccurrences.toNat),
    ("max_occurrences", .integer p.maxOccurrences.toNat), ("direction", p.direction.json)]

def Filter.json (f : Filter) : Json :=
  .ofMembers [
    ("service_port", .integer f.servicePort.toNat), ("client_address", .string f.clientAddress),
    ("client_port", .integer f.clientPort.toNat), ("min_duration", .integer f.minDuration.toNat),
    ("max_duration", .integer f.maxDuration.toNat), ("min_bytes", .integer f.minBytes.toNat),
    ("max_bytes", .integer f.maxBytes.toNat)]

def Rule.json (r : Rule) : Json :=
  .ofMembers [
    ("id", r.id.json), ("name", .string r.name), ("color", .string r.color),
    ("notes", .string r.notes), ("enabled", .bool r.enabled),
    ("patterns", .array (r.patterns.map Pattern.json)), ("filter", r.filter.json),
    ("version", .integer r.version.toInt)]

def Draft.json (d : Draft) : Json :=
  .ofMembers [
    ("name", .string d.name), ("color", .string d.color), ("notes", .string d.notes),
    ("patterns", .array (d.patterns.map Pattern.json)), ("filter", d.filter.json)]

def Update.json (u : Update) : Json :=
  .ofMembers [
    ("name", .string u.name), ("color", .string u.color), ("version", .integer u.version.toInt)]

def EngineConfig.json (c : EngineConfig) : Json :=
  .ofMembers [
    ("publish_mode", .string c.publishMode.name),
    ("pattern_size_limit", .integer c.patternSizeLimit.toNat),
    ("set_size_limit", .integer c.setSizeLimit.toNat),
    ("max_patterns", .integer c.maxPatterns.toNat),
    ("stream_window", .integer c.streamWindow.toNat)]

end TrafficRules
