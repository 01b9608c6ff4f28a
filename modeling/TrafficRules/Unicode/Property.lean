import TrafficRules.Unicode.Ranges
import TrafficRules.Unicode.Names
import TrafficRules.Unicode.GeneralCategory
import TrafficRules.Unicode.Script
import TrafficRules.Unicode.ScriptExtensions
import TrafficRules.Unicode.BinaryProperty
import TrafficRules.Unicode.Age
import TrafficRules.Unicode.Boundary
import TrafficRules.Unicode.Word
import TrafficRules.Unicode.Hidden
import TrafficRules.Unicode.Later

/-! # Unicode properties by name

`Unicode.named?` finds the set of scalar values that a single name stands for (a two-valued
property, a general category or a script, looked for in this order) and `Unicode.valued?` the
set that a property name with a value stands for. Both give `none` for a name they do not know.

Properties are those of version 16. What is a letter or a number on its own, and what has a visible
shape, follows version 17.

The sets that many texts ask for (word characters, decimal digits, white space, letters) are
read from their tables once. -/

namespace TrafficRules.Unicode

/-! ### Names -/

def stripMarks (name : List Char) : List Char :=
  (name.filter fun c => c.toNat < 0x80 && c != ' ' && c != '_' && c != '-').map Char.toLower

/-- The form in which names are compared: ASCII only, lowercase, without blanks, underscores,
hyphens and a leading "is". The abbreviation "isc" is no "c" behind such a prefix. -/
def symbolicName : List Char → List Char
  | a :: b :: rest =>
      if (a = 'i' ∨ a = 'I') ∧ (b = 's' ∨ b = 'S') then
        if stripMarks rest = ['c'] then ['i', 's', 'c'] else stripMarks rest
      else stripMarks (a :: b :: rest)
  | short => stripMarks short

/-- The filing name of the entry that holds a name of the given symbolic form. -/
def filedAs? (symbolic : List Char) (names : List (List String)) : Option String :=
  (names.find? fun entry => entry.any fun n => stripMarks n.toList == symbolic).bind List.head?

/-- The set filed under a name. -/
def fetch? (table : List (String × String)) (name : String) : Option Ranges :=
  (table.lookup name).map Ranges.ofText

/-! ### General categories, scripts and ages -/

/-- The two-letter categories that a group name takes together. -/
def categoriesOf (name : String) : List String :=
  if name = "LC" then ["Ll", "Lt", "Lu"]
  else (generalCategories.map Prod.fst).filter fun code => name.toList.isPrefixOf code.toList

def category (name : String) : Ranges :=
  (categoriesOf name).foldl (fun r code => r.union ((fetch? generalCategories code).getD .empty))
    .empty

/-- All scalar values. -/
def everything : Ranges := Ranges.empty.complementScalars

/-- General categories by symbolic name, and the names for all, all assigned and all ASCII
characters. -/
def generalCategory? (symbolic : List Char) : Option Ranges :=
  if symbolic = "any".toList then some everything
  else if symbolic = "assigned".toList then some (category "Cn").complementScalars
  else if symbolic = "ascii".toList then some (Ranges.empty.insert 0 0x7F)
  else (filedAs? symbolic generalCategoryNames).map category

def script? (symbolic : List Char) : Option Ranges := do
  fetch? scripts (← filedAs? symbolic scriptNames)

def scriptExtension? (symbolic : List Char) : Option Ranges := do
  let code ← filedAs? symbolic scriptNames
  fetch? scriptExtensions code <|> fetch? scripts code

/-- The characters of a version and of all versions before it. A version is named `6.0`
or `V6_0`. -/
def age? (symbolic : List Char) : Option Ranges := do
  let isVersion := fun (v : String) =>
    v.toList == symbolic || 'v' :: v.toList.filter (· != '.') == symbolic
  let older := ages.takeWhile fun e => !isVersion e.1
  let last ← (ages.drop older.length).head?
  some ((older ++ [last]).foldl (fun r e => r.union (.ofText e.2)) .empty)

/-! ### Queries -/

/-- The set that a single name stands for. Three names that also abbreviate properties with
values are read as general categories. -/
def named? (name : List Char) : Option Ranges :=
  let symbolic := symbolicName name
  let binary :=
    if symbolic = "cf".toList ∨ symbolic = "sc".toList ∨ symbolic = "lc".toList then none
    else filedAs? symbolic binaryPropertyNames
  match binary with
  | some filed => fetch? binaryProperties filed
  | none =>
      if (filedAs? symbolic valuedPropertyNames).isSome ∧ symbolic ≠ "sc".toList then none
      else generalCategory? symbolic <|> script? symbolic

/-- The set that a property with a value stands for. -/
def valued? (property value : List Char) : Option Ranges := do
  let symbolic := symbolicName value
  match ← filedAs? (symbolicName property) valuedPropertyNames with
  | "General_Category" => generalCategory? symbolic
  | "Script" => script? symbolic
  | "Script_Extensions" => scriptExtension? symbolic
  | "Age" => age? symbolic
  | "Grapheme_Cluster_Break" =>
      fetch? graphemeBreaks (← filedAs? symbolic graphemeBreakNames)
  | "Word_Break" => fetch? wordBreaks (← filedAs? symbolic wordBreakNames)
  | "Sentence_Break" => fetch? sentenceBreaks (← filedAs? symbolic sentenceBreakNames)
  | _ => none

/-! ### Sets in frequent use -/

def wordRanges : Ranges := .ofText wordText
def digitRanges : Ranges := (fetch? generalCategories "Nd").getD .empty
def spaceRanges : Ranges := (fetch? binaryProperties "White_Space").getD .empty
def alphabeticRanges : Ranges := (fetch? binaryProperties "Alphabetic").getD .empty
def numericRanges : Ranges := category "N"
def laterAlphabeticRanges : Ranges := .ofText laterAlphabeticText
def laterNumericRanges : Ranges := .ofText laterNumericText
def hiddenRanges : Ranges := .ofText hiddenText

/-- Letters, marks, digits, connectors and joiners. -/
def isWord (c : Char) : Bool := wordRanges.contains c.toNat

def isWhite (c : Char) : Bool := spaceRanges.contains c.toNat

def isAlphabetic (c : Char) : Bool :=
  alphabeticRanges.contains c.toNat || laterAlphabeticRanges.contains c.toNat

def isAlphanumeric (c : Char) : Bool :=
  isAlphabetic c || numericRanges.contains c.toNat || laterNumericRanges.contains c.toNat

/-- Characters that a quoted text shows by number. -/
def isHidden (c : Char) : Bool := hiddenRanges.contains c.toNat

end TrafficRules.Unicode
