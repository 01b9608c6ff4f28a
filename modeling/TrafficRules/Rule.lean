import TrafficRules.Pattern
import TrafficRules.Text.Address

/-! # Rules

A rule has a name, a colour, patterns and a filter on connections. `Filter` fields that are zero or
empty are unset. A `Draft` is a rule as submitted, before it has an identifier; an `Update` carries
the fields that can be changed later. -/

namespace TrafficRules

/-- Conditions on a connection. Durations are in milliseconds. -/
structure Filter where
  servicePort : UInt16 := 0
  clientAddress : String := ""
  clientPort : UInt16 := 0
  minDuration : UInt64 := 0
  maxDuration : UInt64 := 0
  minBytes : UInt64 := 0
  maxBytes : UInt64 := 0
deriving DecidableEq, Repr

namespace Filter

/-- The client address, if one is set and well formed. -/
def clientIp? (f : Filter) : Option Address :=
  if f.clientAddress = "" then none else Address.ofText? f.clientAddress

/-- No field is set. -/
def isUnset (f : Filter) : Bool := f = {}

def validate (f : Filter) : Except Invalid Unit :=
  if f.clientAddress ≠ "" ∧ (Address.ofText? f.clientAddress).isNone then
    .error (.clientAddress f.clientAddress)
  else if f.maxDuration ≠ 0 ∧ f.maxDuration < f.minDuration then
    .error (.durations f.maxDuration f.minDuration)
  else if f.maxBytes ≠ 0 ∧ f.maxBytes < f.minBytes then
    .error (.byteCounts f.maxBytes f.minBytes)
  else .ok ()

end Filter

/-- A detection rule. The version counts its changes. -/
structure Rule where
  id : RowId
  name : String
  color : String
  notes : String := ""
  enabled : Bool := false
  patterns : List Pattern := []
  filter : Filter := {}
  version : Int64 := 0
deriving DecidableEq, Repr

/-- A rule name has at least three characters. -/
def validateName (name : String) : Except Invalid Unit :=
  if name.length < minNameLength then .error (.name name) else .ok ()

/-- A colour is a `#` with three, four, six or eight hexadecimal digits. -/
def validateColor (color : String) : Except Invalid Unit :=
  match color.toList with
  | '#' :: digits =>
      if digits.length ∈ [3, 4, 6, 8] ∧ digits.all fun c => (Hex.digit? c).isSome then .ok ()
      else .error (.color color)
  | _ => .error (.color color)

namespace Rule

/-- The constraints on name, colour and filter, in this order. -/
def validate (r : Rule) : Except Invalid Unit := do
  validateName r.name
  validateColor r.color
  r.filter.validate

/-- The numbers of the registered patterns, in rule order. -/
def patternIds (r : Rule) : List Nat := r.patterns.filterMap Pattern.corpusId

/-- One line about a rule. -/
def text (r : Rule) : String :=
  r.id.text ++ " " ++ Quoted.quoted r.name ++ " (" ++ r.color ++ ", " ++
    toString r.patterns.length ++ " patterns" ++ (if r.enabled then "" else ", disabled") ++ ")"

/-- The version after a change; the greatest version has none. -/
def nextVersion? (v : Int64) : Option Int64 := if v = Int64.maxValue then none else some (v + 1)

end Rule

/-- A rule as submitted. -/
structure Draft where
  name : String
  color : String
  notes : String := ""
  patterns : List Pattern := []
  filter : Filter := {}
deriving DecidableEq, Repr

/-- The new enabled rule with the given identifier. -/
def Draft.toRule (d : Draft) (id : RowId) : Rule where
  id := id
  name := d.name
  color := d.color
  notes := d.notes
  enabled := true
  patterns := d.patterns
  filter := d.filter

/-- The fields that a change of a rule sets. -/
structure Update where
  name : String
  color : String
  version : Int64
deriving DecidableEq, Repr

def Update.apply (u : Update) (r : Rule) : Rule :=
  { r with name := u.name, color := u.color, version := u.version }

end TrafficRules
