import JsxLowering.Text.Printable

set_option autoImplicit false

/-!
Text in double quotes with backslash escapes, the way a list of path segments is
shown in the log and a fixture's content is written as a literal. Characters
without a picture of their own are written by their code point.
-/

namespace JsxLowering.Text

/-- The lower case hexadecimal digits of a number, with no leading zero. -/
def hexDigits (n : Nat) : List Char := Nat.toDigits 16 n

def escapeChar (c : Char) : List Char :=
  if c == '\x00' then ['\\', '0']
  else if c == '\t' then ['\\', 't']
  else if c == '\r' then ['\\', 'r']
  else if c == '\n' then ['\\', 'n']
  else if c == '\\' || c == '"' then ['\\', c]
  else if isPrintable c then [c]
  else ['\\', 'u', '\x7b'] ++ hexDigits c.toNat ++ ['\x7d']

def quoted (text : String) : String :=
  String.ofList (['"'] ++ text.toList.flatMap escapeChar ++ ['"'])

end JsxLowering.Text
