import JsxLowering.Decimal
import JsxLowering.Entity
import JsxLowering.Text.CodeRange
import JsxLowering.Text.IdentifierChars

set_option autoImplicit false

/-!
Numbers as they are written: in decimal, with a point or an exponent, or in another base.
Single underscores may stand between digits, and a letter `n` at the end makes a big
integer.
-/

namespace JsxLowering.Source

inductive NumeralForm where
  | decimal
  | float
  | exponential
  | binary
  | octal
  | hexadecimal
  deriving DecidableEq

inductive Numeral where
  | whole (value : Nat)
  | fraction (value : Decimal)
  | big (text : String)
  | unreadable
  deriving DecidableEq

namespace Numeral

/-- What is left of a text after a part of a number, and the complaints about that part,
latest first. -/
abbrev Rest := List Char × List String

def missingDigit : List Char → String
  | c :: _ => "Invalid Character `" ++ c.toString ++ "`"
  | [] => "Unexpected end of file"

def moreDigits (isDigit : Char → Bool) : List Char → Rest
  | '_' :: c :: rest =>
      if isDigit c then moreDigits isDigit rest else (c :: rest, [missingDigit (c :: rest)])
  | '_' :: [] => ([], [missingDigit []])
  | c :: rest => if isDigit c then moreDigits isDigit rest else (c :: rest, [])
  | [] => ([], [])

def someDigits (isDigit : Char → Bool) (text : List Char) : Rest :=
  match text with
  | c :: rest => if isDigit c then moreDigits isDigit rest else (text, [missingDigit text])
  | [] => (text, [missingDigit text])

def anyDigits (isDigit : Char → Bool) (text : List Char) : Rest :=
  match text with
  | c :: rest => if isDigit c then moreDigits isDigit rest else (text, [])
  | [] => (text, [])

def exponent (text : List Char) : Rest :=
  match text with
  | '-' :: rest => someDigits Text.isAsciiDigit rest
  | '+' :: rest => someDigits Text.isAsciiDigit rest
  | _ => someDigits Text.isAsciiDigit text

def atExponent : List Char → Bool
  | c :: _ => c == 'e' || c == 'E'
  | [] => false

def anyExponent (before : Rest) : Rest :=
  if atExponent before.1 then
    let after := exponent before.1.tail
    (after.1, after.2 ++ before.2)
  else before

/-- A number that was read: its form, what follows it, and the complaints about it, latest
first. -/
structure Reading where
  form : NumeralForm
  rest : List Char
  complaints : List String
  broken : Bool

def finish (form : NumeralForm) (before : Rest) : Reading :=
  match before.1 with
  | c :: rest =>
      if Text.isAsciiDigit c || Text.isNameStart c then
        ⟨form, rest.dropWhile Text.isNameStart, "Invalid characters after number" :: before.2, true⟩
      else ⟨form, before.1, before.2, false⟩
  | [] => ⟨form, before.1, before.2, false⟩

def afterPoint (digits : Rest) : Reading := finish .float (anyExponent digits)

def isBinaryDigit (c : Char) : Bool := c == '0' || c == '1'

def isOctalDigit (c : Char) : Bool := '0' ≤ c && c ≤ '7'

def isHexDigit (c : Char) : Bool :=
  Text.isAsciiDigit c || ('a' ≤ c && c ≤ 'f') || ('A' ≤ c && c ≤ 'F')

def based (form : NumeralForm) (isDigit : Char → Bool) (text : List Char) : Reading :=
  let digits := someDigits isDigit text
  if digits.2.isEmpty then
    match digits.1 with
    | 'n' :: rest => finish form (rest, [])
    | _ => finish form digits
  else ⟨form, digits.1, digits.2, true⟩

/-- Reads a number that starts with a zero and another digit. It is octal unless one of its
digits is not. -/
def legacy (text : List Char) : Reading :=
  let digits := text.takeWhile Text.isAsciiDigit
  let rest := text.dropWhile Text.isAsciiDigit
  if digits.all isOctalDigit then finish .octal (rest, [])
  else
    match rest with
    | '.' :: places => afterPoint (anyDigits Text.isAsciiDigit places)
    | 'e' :: power =>
        let after := exponent power
        ⟨.exponential, after.1, after.2, false⟩
    | _ => finish .decimal (rest, [])

def afterDigit (text : List Char) : Reading :=
  let digits := moreDigits Text.isAsciiDigit text
  match digits.1 with
  | '.' :: places =>
      let more := anyDigits Text.isAsciiDigit places
      afterPoint (more.1, more.2 ++ digits.2)
  | 'n' :: rest => finish .decimal (rest, digits.2)
  | _ => finish (if atExponent digits.1 then .exponential else .decimal) (anyExponent digits)

def afterZero (text : List Char) : Reading :=
  match text with
  | [] => finish .decimal (text, [])
  | c :: rest =>
      if c == 'b' || c == 'B' then based .binary isBinaryDigit rest
      else if c == 'o' || c == 'O' then based .octal isOctalDigit rest
      else if c == 'x' || c == 'X' then based .hexadecimal isHexDigit rest
      else if c == 'e' || c == 'E' then
        let after := exponent rest
        ⟨.exponential, after.1, after.2, false⟩
      else if c == '.' then afterPoint (anyDigits Text.isAsciiDigit rest)
      else if c == 'n' then finish .decimal (rest, [])
      else if Text.isAsciiDigit c then legacy text
      else finish .decimal (text, [])

def read (text : List Char) : Reading :=
  match text with
  | '0' :: rest => afterZero rest
  | '.' :: rest => afterPoint (someDigits Text.isAsciiDigit rest)
  | _ => afterDigit text.tail

/-! Values. -/

/-- The value of digits in a base. Up to a length they are read exactly and rounded once; longer
ones are rounded digit by digit. -/
def wholeValue (base exactLength : Nat) (digits : List Char) : Nat :=
  if digits.length ≤ exactLength then
    Double.roundWhole ((Entity.number? base digits).getD 0)
  else
    digits.foldl (fun value digit =>
      Double.roundWhole (value * base + (Entity.number? base [digit]).getD 0)) 0

def digitsValue (digits : List Char) : Nat := (Entity.number? 10 digits).getD 0

def exponentValue? (text : List Char) : Option Int :=
  let value? (digits : List Char) : Option Int :=
    if digits.isEmpty then none else some (digitsValue digits : Int)
  match text with
  | '-' :: digits => (value? digits).map Int.neg
  | '+' :: digits => value? digits
  | digits => value? digits

def scientificValue (text : List Char) : Numeral :=
  let isMark (c : Char) : Bool := c == 'e' || c == 'E'
  let mantissa := text.takeWhile fun c => !isMark c
  let power :=
    match text.dropWhile fun c => !isMark c with
    | _ :: digits => exponentValue? digits
    | [] => some 0
  let ones := mantissa.takeWhile (· != '.')
  let places := (mantissa.dropWhile (· != '.')).tail
  match power with
  | none => .unreadable
  | some power =>
      let value := Double.ofDecimal ⟨digitsValue (ones ++ places), power - places.length⟩
      match value.whole? with
      | some ones => .whole (min ones Double.limit)
      | none => .fraction value.shortest

def value (form : NumeralForm) (text : List Char) : Numeral :=
  let digits := text.filter (· != '_')
  if digits.getLast? = some 'n' then .big (String.ofList digits)
  else
    match form with
    | .decimal => .whole (Double.roundWhole (digitsValue digits))
    | .binary => .whole (wholeValue 2 64 (digits.drop 2))
    | .hexadecimal => .whole (wholeValue 16 16 (digits.drop 2))
    | .octal =>
        .whole (wholeValue 8 21
          (digits.tail.dropWhile fun c => c == 'o' || c == 'O'))
    | .float => scientificValue digits
    | .exponential => scientificValue digits

end Numeral

end JsxLowering.Source
