import TrafficRules.CommandLine.Form

/-! # Invocations

The commands of the program and what they are called with (`Invocation.ofArguments`). Without a
command the program watches. -/

namespace TrafficRules.CommandLine

inductive Command where
  | list
  | add (file : String)
  | flag (regex : String)
  | rename (id name color : String)
  | scan (client : String) (server : Option String) (servicePort : UInt16) (clientAddress : Address)
  | watch
deriving DecidableEq, Repr

/-- What the program is called with. -/
structure Invocation where
  config : Option String := none
  generateConfig : Bool := false
  command : Command := .watch
deriving DecidableEq, Repr

/-- The name that the program is called by. -/
def programName : String := "streamsig"

def listForm : Form where
  call := programName ++ " list"
  about := "List all rules"

def addForm : Form where
  call := programName ++ " add"
  about := "Add a rule from a YAML rule file"
  operands := [{ name := "FILE", accepts := isPath }]

def flagForm : Form where
  call := programName ++ " flag"
  about := "Install the flag rule with the given regex"
  operands := [{ name := "REGEX" }]

def renameForm : Form where
  call := programName ++ " rename"
  about := "Change the name and color of a rule"
  operands := [{ name := "ID" }, { name := "NAME" }, { name := "COLOR" }]

def scanForm : Form where
  call := programName ++ " scan"
  about := "Scan captured payloads and print the rules they trigger"
  options := [
    { name := "client", value := some "FILE", help := "Data sent by the client", required := true,
      accepts := isPath },
    { name := "server", value := some "FILE", help := "Data sent by the server",
      accepts := isPath },
    { name := "service-port", value := some "SERVICE_PORT", usual := some "0",
      accepts := fun s => (port? s).isSome },
    { name := "client-address", value := some "CLIENT_ADDRESS", usual := some "0.0.0.0",
      accepts := fun s => (Address.ofText? s).isSome }]

def watchForm : Form where
  call := programName ++ " watch"
  about := "Load rules and follow engine updates until Ctrl+C"

/-- The commands by name. -/
def commandForms : List (String × Form) :=
  [("list", listForm), ("add", addForm), ("flag", flagForm), ("rename", renameForm),
    ("scan", scanForm), ("watch", watchForm)]

def helpAbout : String := "Print this message or the help of the given subcommand(s)"

def programForm : Form where
  call := programName
  about := "Signature rule manager and streaming matcher for traffic inspection"
  options := [
    { name := "config", letter := some 'c', value := some "FILE", help := "Configuration file path",
      accepts := isPath },
    { name := "generate-config", help := "Generate default configuration file" },
    { name := "verbose", letter := some 'v', help := "Verbose logging (can be repeated: -v, -vv)",
      repeatable := true },
    { name := "quiet", letter := some 'q', help := "Quiet mode (suppress most output)" }]
  commands := commandForms.map (fun (name, f) => (name, f.about)) ++ [("help", helpAbout)]
  version := some (programName ++ " 0.1.0\n")

/-- What is told about the command that tells about commands. -/
def helpOfHelp : String :=
  helpAbout ++ "\n\nUsage: " ++ programName ++ " help [COMMAND]...\n\nArguments:\n" ++
    "  [COMMAND]...  Print help for the subcommand(s)\n"

/-- What is told when help is asked for by a command. -/
def helpFor : List String → Stop
  | [] => .tells programForm.help
  | ["help"] => .tells helpOfHelp
  | [name] =>
      match commandForms.lookup name with
      | some f => .tells f.help
      | none => .misuse
  | _ => .misuse

/-- The command with the given name and what was read for it. -/
def Command.ofReading? (name : String) (r : Reading) : Option Command :=
  match name, r.operands with
  | "list", [] => some .list
  | "add", [file] => some (.add file)
  | "flag", [regex] => some (.flag regex)
  | "rename", [id, name, color] => some (.rename id name color)
  | "watch", [] => some .watch
  | "scan", [] => do
      some (.scan (← r.value? "client") (r.value? "server")
        (← port? ((r.value? "service-port").getD "0"))
        (← Address.ofText? ((r.value? "client-address").getD "0.0.0.0")))
  | _, _ => none

/-- Reads the command that follows the options of the program. -/
def Command.ofArguments (name : String) (args : List String) : Except Stop Command :=
  if name = "help" then .error (helpFor args)
  else match commandForms.lookup name with
    | none => .error .misuse
    | some f => do
        match Command.ofReading? name (← f.read args) with
        | some c => return c
        | none => throw .misuse

/-- Reads what the program is called with. -/
def Invocation.ofArguments (args : List String) : Except Stop Invocation := do
  let r ← programForm.read args
  let command ← match r.command with
    | some (name, args) => Command.ofArguments name args
    | none => pure .watch
  return {
    config := r.value? "config"
    generateConfig := (r.value? "generate-config").isSome
    command := command }

end TrafficRules.CommandLine
