import TrafficRules.Document.Rule
import TrafficRules.Store.File
import TrafficRules.Yaml.Document

/-! # Settings

`Settings` say where rules are stored, how engines are built, which flag is watched for and how the
program logs. They are read from YAML (`Settings.ofYaml`), and refused with the first of their
faults (`Settings.validate`). -/

namespace TrafficRules

structure StorageSettings where
  /-- The file of the rules; without one they are kept in memory. -/
  path : Option String := none
  /-- The time that a write may take, in milliseconds. -/
  writeTimeout : UInt64 := 5000
deriving DecidableEq, Repr

structure FlagSettings where
  /-- The expression that flags match. -/
  regex : Option String := none
deriving DecidableEq, Repr

structure LoggingSettings where
  level : String := "info"
  format : String := "pretty"
deriving DecidableEq, Repr

structure Settings where
  storage : StorageSettings := {}
  engine : EngineConfig := {}
  flag : FlagSettings := {}
  logging : LoggingSettings := {}
deriving DecidableEq, Repr

namespace Settings

/-- The formats of log lines. -/
def logFormats : List String := ["pretty", "compact", "json"]

/-- The constraints on settings, given which paths are directories. -/
def validate (isDirectory : String → Bool) (s : Settings) : Except BadSetting Unit := do
  if s.storage.writeTimeout = 0 then throw .writeTimeout
  match s.storage.path with
  | some path => if isDirectory path then throw (.storageIsDirectory path)
  | none => pure ()
  if s.engine.streamWindow = 0 then throw .streamWindow
  if s.engine.patternSizeLimit = 0 ∨ s.engine.setSizeLimit = 0 then throw .sizeLimits
  if s.flag.regex = some "" then throw .emptyFlagRegex
  if s.logging.format ∉ logFormats then throw (.logFormat s.logging.format)

/-- The settings that are written for a start. -/
def initial : Settings where
  storage := { path := some "rules.json" }
  flag := { regex := some "FLAG\\\x7b[A-Za-z0-9_]+\\\x7d" }

/-! ### Reading -/

open Document (Node)

def storageOf? (src : Source) (x : Node) : Option StorageSettings := do
  let fields ← src.fields? ["path", "write_timeout_ms"] x
  let usual : StorageSettings := {}
  return {
    path := ← fields.optional "path" (src.option? src.text?) none
    writeTimeout := ← fields.optional "write_timeout_ms" src.uint64? usual.writeTimeout }

def flagOf? (src : Source) (x : Node) : Option FlagSettings := do
  let fields ← src.fields? ["regex"] x
  return { regex := ← fields.optional "regex" (src.option? src.text?) none }

def loggingOf? (src : Source) (x : Node) : Option LoggingSettings := do
  let fields ← src.fields? ["level", "format"] x
  let usual : LoggingSettings := {}
  return {
    level := ← fields.optional "level" src.text? usual.level
    format := ← fields.optional "format" src.text? usual.format }

def ofNode? (src : Source) (x : Node) : Option Settings := do
  let fields ← src.fields? ["storage", "engine", "flag", "logging"] x
  return {
    storage := ← fields.optional "storage" (storageOf? src) {}
    engine := ← fields.optional "engine" (EngineConfig.ofNode? src) {}
    flag := ← fields.optional "flag" (flagOf? src) {}
    logging := ← fields.optional "logging" (loggingOf? src) {} }

/-- Reads settings from YAML and checks them. -/
def ofYaml (isDirectory : String → Bool) (text : String) : Except Fault Settings :=
  match Yaml.read? ofNode? text with
  | none => .error .yaml
  | some s => (s.validate isDirectory).mapError Fault.setting |>.map fun _ => s

/-- Reads settings from a file and checks them. -/
def ofFile (isDirectory : String → Bool) : FileState → Except Fault Settings
  | .missing => .error (.setting .fileMissing)
  | .directory => .error (.setting .fileUnreadable)
  | .content bytes =>
      match Utf8.decode? bytes with
      | none => .error (.setting .fileNotText)
      | some text => ofYaml isDirectory text

/-! ### Writing -/

def textOrNull : Option String → Json
  | some s => .string s
  | none => .null

def json (s : Settings) : Json :=
  .ofMembers [
    ("storage", .ofMembers [
      ("path", textOrNull s.storage.path),
      ("write_timeout_ms", .integer s.storage.writeTimeout.toNat)]),
    ("engine", s.engine.json),
    ("flag", .ofMembers [("regex", textOrNull s.flag.regex)]),
    ("logging", .ofMembers [
      ("level", .string s.logging.level), ("format", .string s.logging.format)])]

/-- The settings in YAML. Texts are written as they are, so they must be plain scalars. -/
def yaml (s : Settings) : String :=
  String.join ([
    "storage:", "  path: " ++ s.storage.path.getD "null",
    "  write_timeout_ms: " ++ toString s.storage.writeTimeout.toNat,
    "engine:", "  publish_mode: " ++ s.engine.publishMode.name,
    "  pattern_size_limit: " ++ toString s.engine.patternSizeLimit.toNat,
    "  set_size_limit: " ++ toString s.engine.setSizeLimit.toNat,
    "  max_patterns: " ++ toString s.engine.maxPatterns.toNat,
    "  stream_window: " ++ toString s.engine.streamWindow.toNat,
    "flag:", "  regex: " ++ s.flag.regex.getD "null",
    "logging:", "  level: " ++ s.logging.level, "  format: " ++ s.logging.format].map (· ++ "\n"))

end Settings
end TrafficRules
