import TrafficRules.CommandLine.Disk
import TrafficRules.CommandLine.Invocation
import TrafficRules.Manager
import TrafficRules.Settings

/-! # Running commands

`run` carries out what the program is called with, on any disk. Each call loads the settings and the
stored rules, puts the flag rule into force if one is configured, carries out the command, and
writes changed rules back. Published engines are received at once. -/

namespace TrafficRules.CommandLine

/-- What a call of the program leaves behind. -/
structure Outcome where
  exit : Nat := 0
  stdout : String := ""
  /-- What went wrong, in one line. -/
  error : Option String := none
  /-- The program goes on until it is stopped. -/
  watches : Bool := false
deriving DecidableEq, Repr

/-- Why a command ends early. -/
inductive Failure where
  | tells (message : String)
  /-- A number has left its range. -/
  | aborted
deriving DecidableEq, Repr

namespace Failure

/-- The outcome of a command that ends early. -/
def outcome : Failure → Outcome
  | .tells message => { exit := 1, error := some message }
  | .aborted => { exit := 101 }

end Failure

open Quoted (quotedPath)

variable {m : Type → Type} [Monad m]

/-- A result, or what is said in its place. -/
def orSay {α : Type} (message : String) : Except Fault α → ExceptT Failure m α
  | .ok x => pure x
  | .error .outOfRange => throw .aborted
  | .error _ => throw (.tells message)

/-- The bytes of a file. -/
def readFile (disk : Disk m) (path : String) : ExceptT Failure m Bytes := do
  match ← disk.read path with
  | .content bytes => return bytes
  | _ => throw (.tells ("Failed to read " ++ quotedPath path))

/-! ### Settings -/

/-- The files that settings are looked for in. -/
def configPaths : List String :=
  ["streamsig.yaml", "config/streamsig.yaml", "/etc/streamsig/streamsig.yaml"]

/-- Reads settings from a file; they depend on whether their storage path is a directory. -/
def settingsAt (disk : Disk m) (path : String) : m (Except Fault Settings) := do
  let state ← disk.read path
  let storage := match Settings.ofFile (fun _ => false) state with
    | .ok s => s.storage.path
    | .error _ => none
  let isDirectory : Bool ← match storage with
    | some p => pure (decide ((← disk.read p) = .directory))
    | none => pure false
  return Settings.ofFile (fun _ => isDirectory) state

/-- The settings in the first file that is there, or the initial ones with the rules in memory. -/
def usualSettings (disk : Disk m) : List String → ExceptT Failure m Settings
  | [] => return { Settings.initial with storage := { Settings.initial.storage with path := none } }
  | path :: rest => do
      match ← disk.read path with
      | .missing => usualSettings disk rest
      | _ =>
          let result ← (settingsAt disk path : m _)
          orSay ("Failed to load configuration from " ++ quotedPath path) result

def loadSettings (disk : Disk m) (config : Option String) : ExceptT Failure m Settings := do
  match config with
  | some path =>
      let result ← (settingsAt disk path : m _)
      orSay "Failed to load configuration file" result
  | none => usualSettings disk configPaths

/-- Writes the initial settings. -/
def generateConfig (disk : Disk m) : ExceptT Failure m String := do
  let path := "streamsig.yaml"
  if ← disk.write path (Utf8.bytesOf Settings.initial.yaml) then
    return "Generated default configuration at: " ++ quotedPath path ++ "\n"
  else throw (.tells "Failed to write config file")

/-! ### The manager -/

/-- The store that settings ask for. -/
def openStore (disk : Disk m) (s : Settings) : m Store := do
  match s.storage.path with
  | some path => return .file { file := ← disk.read path }
  | none => return .memory {}

/-- A step of a manager. Changed rules are written back, and where that is not possible the step is
taken with a store that cannot write. What is published is received at once. -/
def step {α : Type} (disk : Disk m) (s : Settings) (manager : Manager)
    (work : Manager → Except Fault α × Manager) : m (Except Fault α × Manager) := do
  let (result, after) := work manager
  let obstacle ← match s.storage.path, manager.store, after.store with
    | some path, .file old, .file new =>
        match new.file with
        | .content bytes => if new.file = old.file then pure none else disk.replace path bytes
        | _ => pure none
    | _, _, _ => pure none
  let (result, after) := match obstacle with
    | none => (result, after)
    | some obstacle => work { manager with store := manager.store.obstruct obstacle }
  return (result, after.receive.2)

/-- The context of writes, whose deadline lies ahead of all checks of a write. -/
def writeContext : WriteContext := { deadlineAfter := some 2 }

/-- Puts the configured flag rule into force if there is none; a failure is passed over. -/
def installFlag (disk : Disk m) (now : UInt32) (s : Settings) (manager : Manager) : m Manager := do
  match s.flag.regex with
  | none => return manager
  | some regex =>
      if (manager.registry.getByName? Manager.flagRuleName).isSome then return manager
      else return (← step disk s manager fun m => m.addFlag now writeContext regex).2

/-! ### Commands -/

/-- A text filled up with blanks on the left. -/
def fillLeft (width : Nat) (s : String) : String := Form.blanks (width - s.length) ++ s

def ruleLine (r : Rule) : String :=
  r.id.text ++ "  " ++ Form.fillRight 24 r.name ++ " " ++ Form.fillRight 9 r.color ++ " " ++
    fillLeft 2 (toString r.patterns.length) ++ " patterns  " ++
    (if r.enabled then "enabled" else "disabled") ++ "\n"

/-- The rules in force and their numbers. -/
def listing (manager : Manager) : String :=
  let stats := manager.stats
  String.join (manager.registry.list.map ruleLine) ++
    toString stats.rules ++ " rules (" ++ toString stats.enabledRules ++ " enabled), " ++
    toString stats.patterns ++ " distinct patterns\n"

/-- The number of bytes of a chunk. -/
def chunkSize : Nat := 4096

/-- Cuts bytes into chunks, at most `fuel` of them. -/
def chunksWith : Nat → Bytes → List Bytes
  | 0, _ => []
  | fuel + 1, bytes =>
      if bytes.isEmpty then [] else bytes.take chunkSize :: chunksWith fuel (bytes.drop chunkSize)

def chunks (bytes : Bytes) : List Bytes := chunksWith bytes.length bytes

/-- The match counts of one side of a connection. -/
def countsOf (e : Engine) (bytes : Bytes) : ExceptT Failure m Counts :=
  match e.openStream.scanAll (chunks bytes) with
  | (s, .ok _) => return s.counts
  | (_, .error _) => throw .aborted

/-- Scans what both sides sent, and lists the rules that this triggers. -/
def scan (disk : Disk m) (manager : Manager) (client : String) (server : Option String)
    (servicePort : UInt16) (clientAddress : Address) : ExceptT Failure m String := do
  match manager.distributor.latest with
  | none => return "No rules loaded\n"
  | some snapshot =>
      let sent ← readFile disk client
      let answered ← match server with
        | some path => readFile disk path
        | none => pure []
      let counts : DirectionalCounts :=
        ⟨← countsOf snapshot.engine sent, ← countsOf snapshot.engine answered⟩
      let c : Connection := {
        clientAddress := clientAddress
        clientPort := 0
        serverAddress := .v4 0
        servicePort := servicePort
        nanoseconds := 0
        clientBytes := UInt64.ofNat sent.length
        serverBytes := UInt64.ofNat answered.length }
      let rules := (manager.annotate c counts).filterMap manager.registry.get?
      return String.join (rules.map fun r => r.id.text ++ "  " ++ r.name ++ "  " ++ r.color ++ "\n")

/-- Reads a draft from a YAML file. -/
def draftAt (disk : Disk m) (path : String) : ExceptT Failure m Draft := do
  match Utf8.decode? (← readFile disk path) with
  | none => throw (.tells ("Failed to read " ++ quotedPath path))
  | some text =>
      match Yaml.read? Draft.ofNode? text with
      | some draft => return draft
      | none => throw (.tells ("Invalid rule file " ++ quotedPath path))

/-- Carries out a command, and gives what it prints. -/
def command (disk : Disk m) (now : UInt32) (s : Settings) (manager : Manager) :
    Command → ExceptT Failure m String
  | .list => return listing manager
  | .add file => do
      let draft ← draftAt disk file
      let (result, _) ← (step disk s manager fun m => m.add now writeContext draft : m _)
      return (← orSay "Failed to add rule" result).text ++ "\n"
  | .flag regex => do
      let (result, _) ← (step disk s manager fun m => m.addFlag now writeContext regex : m _)
      return (← orSay "Failed to set flag rule" result).text ++ "\n"
  | .rename text name color => do
      match RowId.ofText? text with
      | none => throw (.tells (RowId.malformed text))
      | some id =>
          let (result, _) ←
            (step disk s manager fun m => m.update writeContext id name color : m _)
          if ← orSay "Failed to update rule" result then return "Updated rule " ++ id.text ++ "\n"
          else throw (.tells ("No rule with id " ++ id.text))
  | .scan client server servicePort clientAddress =>
      scan disk manager client server servicePort clientAddress
  | .watch => return ""

/-- Carries out an invocation, and gives what it prints. -/
def invoke (disk : Disk m) (now : UInt32) (i : Invocation) : ExceptT Failure m String := do
  if i.generateConfig then return ← generateConfig disk
  let s ← loadSettings disk i.config
  let store ← (openStore disk s : m _)
  let (loaded, manager) ← (step disk s (Manager.new store s.engine) Manager.load : m _)
  orSay "Failed to load rules" loaded
  let manager ← (installFlag disk now s manager : m _)
  command disk now s manager i.command

/-- Carries out what the program is called with at the given second. -/
def run (disk : Disk m) (now : UInt32) (args : List String) : m Outcome := do
  match Invocation.ofArguments args with
  | .error (.tells text) => return { stdout := text }
  | .error .misuse => return { exit := 2 }
  | .ok i =>
      match ← (invoke disk now i).run with
      | .ok text => return { stdout := text, watches := i.command = .watch && !i.generateConfig }
      | .error failure => return failure.outcome

end TrafficRules.CommandLine
