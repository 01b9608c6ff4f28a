import TrafficRules.Text.Hex
import TrafficRules.Unicode.Property

/-! # Quoted text

How a text is shown inside a message: between double quotes, with a backslash before a quote or a
backslash, short forms for the usual controls, and the number in braces for every character that
has no visible shape of its own (`Unicode.isHidden`).

File names are shown in the same way, but a single quote takes a backslash as well. -/

namespace TrafficRules.Quoted

/-- How one character is shown. `single` asks for a backslash before a single quote. -/
def escape (single : Bool) (c : Char) : List Char :=
  match c with
  | '\x00' => ['\\', '0']
  | '\t' => ['\\', 't']
  | '\n' => ['\\', 'n']
  | '\r' => ['\\', 'r']
  | '"' => ['\\', '"']
  | '\\' => ['\\', '\\']
  | '\'' => if single then ['\\', '\''] else ['\'']
  | c =>
      if Unicode.isHidden c then ['\\', 'u', '\x7b'] ++ Hex.minimal c.toNat ++ ['\x7d'] else [c]

def quotedWith (single : Bool) (s : String) : String :=
  String.ofList ('"' :: s.toList.flatMap (escape single) ++ ['"'])

/-- A text between double quotes. -/
def quoted (s : String) : String := quotedWith false s

/-- A file name between double quotes. -/
def quotedPath (s : String) : String := quotedWith true s

end TrafficRules.Quoted
