import TrafficRules.Text.Utf8

/-! # Paths

A path is a text of parts between slashes. Empty parts and single periods stay in place, two periods
lead upwards, and every other part names an entry of the directory reached so far.

* `Path.steps` are the parts that lead somewhere, `Path.asksDirectory` holds where the path goes on
  behind the last of them, and so cannot lead to a file.
* `Path.above` is the path to the directory that the last step leaves from.
* `Path.temporary` names the file that a document is written to before it takes its place: beside
  it, with another extension. -/

namespace TrafficRules.Path

/-- The most bytes of a path. -/
def mostBytes : Nat := 4095

/-- The most bytes of a name. -/
def mostNameBytes : Nat := 255

/-- A path that can lead somewhere at all. -/
def isUsable (path : String) : Bool :=
  path ≠ "" && path.utf8ByteSize ≤ mostBytes && !path.toList.contains '\x00'

def parts (path : String) : List String := path.splitOn "/"

/-- A part that stays in place. -/
def stays (part : String) : Bool := part = "" || part = "."

def steps (path : String) : List String := (parts path).filter fun part => !stays part

def isAbsolute (path : String) : Bool := path.toList.head? = some '/'

/-- A path with something behind its last step. -/
def asksDirectory (path : String) : Bool := (parts path).getLast?.any stays

/-- The parts of a path up to its last step, which comes first. -/
def inward (path : String) : List String := (parts path).reverse.dropWhile stays

/-- The path up to the last step, empty if nothing is there. -/
def above (path : String) : String := "/".intercalate (inward path).tail.reverse

/-- A name without its extension, which starts at the last period, but not at the first character. -/
def stem (name : String) : String :=
  match (name.toList.reverse.dropWhile (· ≠ '.')).tail.reverse with
  | [] => name
  | cs => String.ofList cs

/-- The extension of temporary files. -/
def temporaryExtension : String := ".json.tmp"

/-- The path of the temporary file. A path that does not end in a name stays as it is. -/
def temporary (path : String) : String :=
  match inward path with
  | [] => path
  | name :: rest =>
      if name = ".." then path
      else "/".intercalate (rest.reverse ++ [stem name ++ temporaryExtension])

end TrafficRules.Path
