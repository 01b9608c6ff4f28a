import TrafficRules.RowId
import TrafficRules.Text.Quoted
import TrafficRules.Regex.Basic

/-! # What can go wrong

`Fault` names the causes for which an operation is refused, and `Fault.message` words them. A fault
is a *rejection* (`Fault.isRejection`) if the submitted rule itself is to blame, rather than the
engine or the store. -/

namespace TrafficRules

open Quoted (quoted quotedPath)

/-- The least number of characters of a rule name. -/
def minNameLength : Nat := 3

/-- A field that breaks its constraints, or an identifier that does not fit. -/
inductive Invalid where
  | emptyRegex
  | occurrences (regex : String) (most least : UInt32)
  | clientAddress (text : String)
  | durations (most least : UInt64)
  | byteCounts (most least : UInt64)
  | name (name : String)
  | color (color : String)
  | idTaken (id : RowId)
  | staleAdmission (id : RowId)
deriving DecidableEq, Repr

/-- Why a pattern that compiles cannot be used in an engine. -/
inductive Unusable where
  | matchesEmpty
  | notCombinable
deriving DecidableEq, Repr

/-- Why no engine can be built. -/
inductive EngineLimit where
  | patterns (count most : Nat)
  | setSize
deriving DecidableEq, Repr

/-- Why a store did not answer or did not write. -/
inductive StoreFault where
  | alreadyStored (id : RowId)
  | notStored (id : RowId)
  | unavailable
  | cancelled
  | deadlineExceeded
  | unreadableDocument
  | unreadableRule (id : RowId)
deriving DecidableEq, Repr

/-- Why settings are refused. -/
inductive BadSetting where
  | fileMissing
  | fileNotText
  | fileUnreadable
  | writeTimeout
  | storageIsDirectory (path : String)
  | streamWindow
  | sizeLimits
  | emptyFlagRegex
  | logFormat (text : String)
deriving DecidableEq, Repr

/-- Why an operation is refused. -/
inductive Fault where
  | invalid (cause : Invalid)
  | nameTaken (name : String)
  | patternRepeated (canonical : String)
  | notCompiled (regex : String) (cause : Regex.Refusal)
  | unusable (canonical : String) (cause : Unusable)
  | engine (cause : EngineLimit)
  | store (cause : StoreFault)
  | setting (cause : BadSetting)
  | file
  | yaml
  | json
  /-- A counter, an offset or a version would leave its range; the operation is given up. -/
  | outOfRange
  /-- The last snapshot has not been received, so that the publisher would have to wait. -/
  | slotTaken
deriving DecidableEq, Repr

def Invalid.message : Invalid → String
  | .emptyRegex => "pattern regex cannot be empty"
  | .occurrences regex most least =>
      "pattern " ++ quoted regex ++ ": max_occurrences (" ++ toString most.toNat ++
        ") must be >= min_occurrences (" ++ toString least.toNat ++ ")"
  | .clientAddress text => "filter client_address " ++ quoted text ++ " is not an IP address"
  | .durations most least =>
      "filter max_duration (" ++ toString most.toNat ++ ") must be >= min_duration (" ++
        toString least.toNat ++ ")"
  | .byteCounts most least =>
      "filter max_bytes (" ++ toString most.toNat ++ ") must be >= min_bytes (" ++
        toString least.toNat ++ ")"
  | .name text =>
      "rule name " ++ quoted text ++ " must be at least " ++ toString minNameLength ++ " characters"
  | .color text => "color " ++ quoted text ++ " is not a hex color"
  | .idTaken id => "rule id " ++ id.text ++ " is already registered"
  | .staleAdmission id => "rule " ++ id.text ++ " was prepared against an older pattern corpus"

def Unusable.message : Unusable → String
  | .matchesEmpty => "matches empty input"
  | .notCombinable => "cannot be combined"

def EngineLimit.message : EngineLimit → String
  | .patterns count most =>
      toString count ++ " patterns exceed the engine limit of " ++ toString most
  | .setSize => "failed to build regex set"

def StoreFault.message : StoreFault → String
  | .alreadyStored id => "rule " ++ id.text ++ " already stored"
  | .notStored id => "rule " ++ id.text ++ " is not in the store"
  | .unavailable => "store unavailable"
  | .cancelled => "write cancelled"
  | .deadlineExceeded => "write deadline exceeded"
  | .unreadableDocument => "unreadable rule document"
  | .unreadableRule id => "stored rule " ++ id.text

def BadSetting.message : BadSetting → String
  | .fileMissing => "Failed to read config file: No such file or directory (os error 2)"
  | .fileNotText => "Failed to read config file: stream did not contain valid UTF-8"
  | .fileUnreadable => "Failed to read config file: Is a directory (os error 21)"
  | .writeTimeout => "Storage write timeout must be greater than 0"
  | .storageIsDirectory path => "Storage path " ++ quotedPath path ++ " is a directory"
  | .streamWindow => "Engine stream window must be greater than 0"
  | .sizeLimits => "Engine size limits must be greater than 0"
  | .emptyFlagRegex => "Flag regex cannot be empty"
  | .logFormat text =>
      "Unknown log format " ++ quoted text ++ " (expected pretty, compact or json)"

namespace Fault

/-- The wording of a fault. What the readers of regular expressions, of YAML and of JSON and the
file system have to say in detail is not part of it. -/
def message : Fault → String
  | .invalid cause => "Validation error: " ++ cause.message
  | .nameTaken name => "Rule name already in use: " ++ name
  | .patternRepeated canonical => "Duplicate pattern in rule: " ++ canonical
  | .notCompiled regex _ => "Failed to compile pattern " ++ regex
  | .unusable canonical cause =>
      "Pattern rejected by engine: " ++ canonical ++ " " ++ cause.message
  | .engine cause => "Failed to build matching engine: " ++ cause.message
  | .store cause => "Rule store error: " ++ cause.message
  | .setting cause => "Configuration error: " ++ cause.message
  | .file => "IO error"
  | .yaml => "YAML parse error"
  | .json => "JSON error"
  | .outOfRange => "Value out of range"
  | .slotTaken => "Snapshot still pending"

/-- Whether the submitted rule itself is to blame. -/
def isRejection : Fault → Bool
  | .invalid _ | .nameTaken _ | .patternRepeated _ | .notCompiled _ _ | .unusable _ _ => true
  | _ => false

end Fault

/-! ### Texts and numbers that stand for nothing -/

/-- What is said of a text that is no identifier. -/
def RowId.malformed (text : String) : String :=
  "row id must be 24 hex characters, got " ++ quoted text

end TrafficRules
