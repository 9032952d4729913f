import JsxLowering.Entity.Names
import JsxLowering.Text.CodeRange

set_option autoImplicit false

/-!
Character references in text: `&amp;`, `&#65;`, `&#x41;`. Text is read once from
left to right. An ampersand opens a reference, another one gives the first up and
opens a new one, and a semicolon closes it; what is no valid reference stays as it
is written.
-/

namespace JsxLowering.Entity

/-- The value of a digit in a base of at most 16. -/
def digit? (base : Nat) (c : Char) : Option Nat :=
  let value :=
    if Text.isAsciiDigit c then some (c.toNat - '0'.toNat)
    else if 'a' ≤ c && c ≤ 'f' then some (c.toNat - 'a'.toNat + 10)
    else if 'A' ≤ c && c ≤ 'F' then some (c.toNat - 'A'.toNat + 10)
    else none
  value.filter (· < base)

def numberFrom? (base : Nat) (value : Nat) : List Char → Option Nat
  | [] => some value
  | c :: rest =>
      match digit? base c with
      | some d => numberFrom? base (value * base + d) rest
      | none => none

def number? (base : Nat) (digits : List Char) : Option Nat :=
  if digits.isEmpty then none else numberFrom? base 0 digits

/-- The character of a code point; surrogates and what lies above U+10FFFF are none. -/
def scalar? (code : Nat) : Option Char :=
  if h : code.isValidChar then some (Char.ofNatAux code h) else none

/-- The character that a number in a reference stands for. The number has to fit a signed
word of 64 bits, and only its low 32 bits count. -/
def ofNumber? (value : Nat) : Option Char :=
  if value < 0x8000000000000000 then scalar? (value % 0x100000000) else none

def resolve? : List Char → Option Char
  | '#' :: 'x' :: digits => (number? 16 digits).bind ofNumber?
  | '#' :: 'X' :: digits => (number? 16 digits).bind ofNumber?
  | '#' :: digits => (number? 10 digits).bind ofNumber?
  | name => (codePoint? (String.ofList name)).bind scalar?

/-- Decodes the rest of a text. `held` is what has been read since the ampersand of an
open reference, last character first. -/
def decodeFrom : Option (List Char) → List Char → List Char
  | none, [] => []
  | none, c :: rest => if c = '&' then decodeFrom (some []) rest else c :: decodeFrom none rest
  | some held, [] => '&' :: held.reverse
  | some held, c :: rest =>
      if c = '&' then '&' :: held.reverse ++ decodeFrom (some []) rest
      else if c = ';' then
        match resolve? held.reverse with
        | some decoded => decoded :: decodeFrom none rest
        | none => '&' :: held.reverse ++ ';' :: decodeFrom none rest
      else decodeFrom (some (c :: held)) rest

/-- The text with its character references replaced. Text without an ampersand is
returned at once. -/
def decode (text : List Char) : List Char :=
  if text.contains '&' then decodeFrom none text else text

end JsxLowering.Entity
