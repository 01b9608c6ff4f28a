import TrafficRules.Text.Address

/-! # Forms of command lines

A `Form` says which options and operands a command takes and which commands may follow; it also
words its own help (`Form.help`). `Form.read` reads arguments by a form.

* **Options** have a long name, perhaps a letter, and perhaps a value: `--name value`,
  `--name=value`, `-n value`, `-nvalue`. Letters without a value can be joined. A value on its own
  does not start with a hyphen.
* **Operands** come in order. Behind `--` every argument is one.
* **Help** is asked for by `-h` or `--help`, and ends the reading where it stands. -/

namespace TrafficRules.CommandLine

structure OptionForm where
  name : String
  letter : Option Char := none
  /-- What the value is called, if there is one. -/
  value : Option String := none
  help : String := ""
  /-- The value if the option is not given. -/
  usual : Option String := none
  required : Bool := false
  /-- May be given more than once. -/
  repeatable : Bool := false
  /-- Which values are accepted. -/
  accepts : String → Bool := fun _ => true

structure OperandForm where
  name : String
  accepts : String → Bool := fun _ => true

structure Form where
  /-- The words that call the command. -/
  call : String
  about : String
  options : List OptionForm := []
  operands : List OperandForm := []
  /-- The commands that may follow, with what they are about. -/
  commands : List (String × String) := []
  /-- The version that can be asked for. -/
  version : Option String := none

/-- Why arguments call no command. -/
inductive Stop where
  /-- A text was asked for. -/
  | tells (text : String)
  | misuse
deriving DecidableEq, Repr

/-- Arguments as read by a form. -/
structure Reading where
  options : List (String × String) := []
  operands : List String := []
  /-- The command that follows, with its arguments. -/
  command : Option (String × List String) := none
deriving DecidableEq, Repr

/-- The value of an option. -/
def Reading.value? (r : Reading) (name : String) : Option String := r.options.lookup name

/-- How often an option is given. -/
def Reading.count (r : Reading) (name : String) : Nat :=
  (r.options.filter fun o => o.1 = name).length

namespace Form

/-! ### Help -/

def blanks (n : Nat) : String := String.ofList (List.replicate n ' ')

/-- A text filled up with blanks on the right. -/
def fillRight (width : Nat) (s : String) : String := s ++ blanks (width - s.length)

/-- Rows with their second parts below each other. -/
def table (rows : List (String × String)) : List String :=
  let width := (rows.map fun r => r.1.length).foldl max 0
  rows.map fun (left, right) => "  " ++ fillRight width left ++ "  " ++ right

def valueMark (o : OptionForm) : String :=
  match o.value with
  | some value => " <" ++ value ++ ">"
  | none => if o.repeatable then "..." else ""

/-- The row of an option. -/
def optionRow (o : OptionForm) : String × String :=
  let letter := match o.letter with
    | some c => "-" ++ String.singleton c ++ ", "
    | none => "    "
  let usual := match o.usual with
    | some value => (if o.help = "" then "" else " ") ++ "[default: " ++ value ++ "]"
    | none => ""
  (letter ++ "--" ++ o.name ++ valueMark o, o.help ++ usual)

/-- The options that every form has. -/
def commonRows (f : Form) : List (String × String) :=
  ("-h, --help", "Print help") ::
    (if f.version.isSome then [("-V, --version", "Print version")] else [])

def usage (f : Form) : String :=
  let required := f.options.filter OptionForm.required
  " ".intercalate (["Usage:", f.call] ++
    (if f.options.length = required.length then [] else ["[OPTIONS]"]) ++
    required.map (fun o => "--" ++ o.name ++ valueMark o) ++
    f.operands.map (fun o => "<" ++ o.name ++ ">") ++
    (if f.commands.isEmpty then [] else ["[COMMAND]"]))

/-- A heading with rows; without any row there is no heading. -/
def sectionText (title : String) (rows : List (String × String)) : List String :=
  if rows.isEmpty then [] else "" :: (title ++ ":") :: table rows

/-- What a command tells about itself. -/
def help (f : Form) : String :=
  "\n".intercalate ([f.about, "", f.usage] ++ sectionText "Commands" f.commands ++
    sectionText "Arguments" (f.operands.map fun o => ("<" ++ o.name ++ ">", "")) ++
    sectionText "Options" (f.options.map optionRow ++ f.commonRows)) ++ "\n"

/-! ### Reading -/

/-- Takes an option, which must be acceptable and not be given before. -/
def giveOption (r : Reading) (o : OptionForm) (value : String) : Except Stop Reading :=
  if !o.accepts value || (!o.repeatable && (r.value? o.name).isSome) then .error .misuse
  else .ok { r with options := r.options ++ [(o.name, value)] }

/-- Takes an operand. -/
def giveOperand (f : Form) (r : Reading) (value : String) : Except Stop Reading :=
  match f.operands[r.operands.length]? with
  | some o =>
      if o.accepts value then .ok { r with operands := r.operands ++ [value] } else .error .misuse
  | none => .error .misuse

/-- Takes an option by its long name. The option is returned if its value is to follow. -/
def giveLong (f : Form) (r : Reading) (text : List Char) :
    Except Stop (Reading × Option OptionForm) :=
  let (name, attached) := text.span (· ≠ '=')
  let name := String.ofList name
  match f.options.find? fun o => o.name = name with
  | some o =>
      match o.value, attached with
      | some _, [] => .ok (r, some o)
      | some _, _ :: value => (giveOption r o (String.ofList value)).map (·, none)
      | none, [] => (giveOption r o "").map (·, none)
      | none, _ => .error .misuse
  | none =>
      if !attached.isEmpty then .error .misuse
      else if name = "help" then .error (.tells f.help)
      else match f.version with
        | some version => if name = "version" then .error (.tells version) else .error .misuse
        | none => .error .misuse

/-- Takes joined letters. The last option is returned if its value is to follow. -/
def giveLetters (f : Form) (r : Reading) : List Char → Except Stop (Reading × Option OptionForm)
  | [] => .ok (r, none)
  | c :: rest =>
      match f.options.find? fun o => o.letter = some c with
      | some o =>
          if o.value.isNone then do f.giveLetters (← giveOption r o "") rest
          else match rest with
            | [] => .ok (r, some o)
            | '=' :: value => (giveOption r o (String.ofList value)).map (·, none)
            | value => (giveOption r o (String.ofList value)).map (·, none)
      | none =>
          if c = 'h' then .error (.tells f.help)
          else match f.version with
            | some version => if c = 'V' then .error (.tells version) else .error .misuse
            | none => .error .misuse

/-- Reads arguments on; `pending` is an option whose value is to follow. -/
def readFrom (f : Form) (r : Reading) (pending : Option OptionForm) :
    List String → Except Stop Reading
  | [] => if pending.isSome then .error .misuse else .ok r
  | arg :: rest =>
      if pending.isNone && (f.commands.lookup arg).isSome then
        .ok { r with command := some (arg, rest) }
      else match arg.toList, pending with
        | ['-', '-'], none => rest.foldlM f.giveOperand r
        | '-' :: '-' :: name, none => do
            let (r, pending) ← f.giveLong r name
            f.readFrom r pending rest
        | '-' :: c :: letters, none => do
            let (r, pending) ← f.giveLetters r (c :: letters)
            f.readFrom r pending rest
        | '-' :: _ :: _, some _ => .error .misuse
        | _, some o => do f.readFrom (← giveOption r o arg) none rest
        | _, none => do f.readFrom (← f.giveOperand r arg) none rest

/-- Reads arguments. What is required must be there unless another command follows. -/
def read (f : Form) (args : List String) : Except Stop Reading := do
  let r ← f.readFrom {} none args
  if r.operands.length < f.operands.length ||
      f.options.any fun o => o.required && (r.value? o.name).isNone then
    throw .misuse
  return r

end Form

/-! ### Acceptable values -/

/-- A name of a file. -/
def isPath (s : String) : Bool := s ≠ ""

/-- The port that a text stands for; a sign is allowed. -/
def port? (s : String) : Option UInt16 :=
  let digits? (cs : List Char) : Option Nat :=
    if cs.isEmpty || !cs.all Char.isDigit then none
    else some (cs.foldl (fun n c => n * 10 + (c.toNat - 48)) 0)
  match s.toList with
  | '-' :: rest => (digits? rest).bind fun n => if n = 0 then some 0 else none
  | '+' :: rest => (digits? rest).bind fun n => if n < UInt16.size then some (UInt16.ofNat n) else none
  | cs => (digits? cs).bind fun n => if n < UInt16.size then some (UInt16.ofNat n) else none

end TrafficRules.CommandLine
