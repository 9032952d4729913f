import JsxLowering.Decimal
import JsxLowering.Text.CodeRange

set_option autoImplicit false

/-!
How literals are written: which quotes a string gets, what is escaped in it, and the
shortest way to write a number.
-/

namespace JsxLowering.Literal

inductive Quote where
  | double
  | single
  | backtick
  deriving DecidableEq

namespace Quote

def char : Quote → Char
  | double => '"'
  | single => '\''
  | backtick => '\x60'

end Quote

def countOpenings : List Char → Nat
  | [] => 0
  | '$' :: rest =>
      (match rest with
        | '\x7b' :: _ => 1
        | _ => 0) + countOpenings rest
  | _ :: rest => countOpenings rest

/-- The quotes for a property key, where a backtick cannot stand: those that need fewer
escapes. -/
def keyQuote (text : List Char) : Quote :=
  if text.count '\'' < text.count '"' then .single else .double

/-- The quotes that make a string shortest. A backtick saves a character for every line
break. -/
def shortestQuote (text : List Char) : Quote :=
  let doubles : Int := text.count '"'
  let singles : Int := text.count '\''
  let backticks : Int := text.count '\x60' + countOpenings text - text.count '\n'
  if backticks ≤ doubles then
    if singles < backticks then .single else .backtick
  else if singles < doubles then .single
  else .double

def escapeChar (quote : Quote) (c : Char) (next : Option Char) : List Char :=
  if c == '\x00' then
    match next with
    | some d => if Text.isAsciiDigit d then ['\\', 'x', '0', '0'] else ['\\', '0']
    | none => ['\\', '0']
  else if c == '\x07' then ['\\', 'x', '0', '7']
  else if c == '\x08' then ['\\', 'b']
  else if c == '\x0b' then ['\\', 'v']
  else if c == '\x0c' then ['\\', 'f']
  else if c == '\n' then if quote = .backtick then ['\n'] else ['\\', 'n']
  else if c == '\r' then ['\\', 'r']
  else if c == '\x1b' then ['\\', 'x', '1', 'B']
  else if c == '\\' then ['\\', '\\']
  else if c.toNat == 0x2028 then ['\\', 'u', '2', '0', '2', '8']
  else if c.toNat == 0x2029 then ['\\', 'u', '2', '0', '2', '9']
  else if c.toNat == 0xA0 then ['\\', 'x', 'A', '0']
  else if c == quote.char then ['\\', c]
  else if c == '$' && next == some '\x7b' then ['\\', '$']
  else [c]

def escapeText (quote : Quote) : List Char → List Char
  | [] => []
  | c :: rest => escapeChar quote c rest.head? ++ escapeText quote rest

def string (quote : Quote) (text : List Char) : String :=
  String.ofList (quote.char :: escapeText quote text ++ [quote.char])

/-- The quotes around a directive: single ones if a double quote comes before any single one.
What a backslash escapes does not count. -/
def directiveQuote : List Char → Quote
  | '\\' :: _ :: rest => directiveQuote rest
  | '"' :: _ => .single
  | '\'' :: _ => .double
  | _ :: rest => directiveQuote rest
  | [] => .double

def directive (text : String) : String :=
  let quote := (directiveQuote text.toList).char.toString
  quote ++ text ++ quote

/-! Numbers. -/

def splitZeros (digits : List Char) : List Char × Nat :=
  let zeros := digits.reverse.takeWhile (· == '0')
  ((digits.reverse.dropWhile (· == '0')).reverse, zeros.length)

def zeros (count : Nat) : List Char := List.replicate count '0'

def scientific (digits : List Char) (exponent : Int) : List Char :=
  digits ++ 'e' :: (toString exponent).toList

/-- The usual way to write a decimal: positional, unless it is very large or very small.
Nothing is written before a point but what is needed. -/
def positional (value : Decimal) : List Char :=
  let (digits, trailing) := splitZeros (toString value.digits).toList
  let point : Int := value.exponent + trailing + digits.length
  let count : Int := digits.length
  if count ≤ point && point ≤ 21 then digits ++ zeros (point - count).toNat
  else if 0 < point && point ≤ 21 then
    digits.take point.toNat ++ '.' :: digits.drop point.toNat
  else if -6 < point && point ≤ 0 then '.' :: zeros (0 - point).toNat ++ digits
  else
    match digits with
    | first :: second :: rest => scientific (first :: '.' :: second :: rest) (point - 1)
    | _ => scientific digits (point - 1)

/-- The other way to write a decimal, with all its digits before an exponent. It is taken up
where the usual text ends in zeros, starts with them, or has an exponent. -/
def compact? (value : Decimal) (text : List Char) : Option (List Char) :=
  let (digits, trailing) := splitZeros (toString value.digits).toList
  let scientificText := scientific digits (value.exponent + trailing)
  if text.contains 'e' || text.getLast? = some '0' || ['.', '0'].isPrefixOf text then
    some scientificText
  else none

def shortestText (first : List Char) (others : List (List Char)) : List Char :=
  others.foldl (fun best text => if text.length < best.length then text else best) first

/-- The shortest of the ways to write a whole number: in decimal, in hexadecimal from a
thousand on, or with an exponent. -/
def number (value : Nat) : String :=
  if value < 1000 then toString value
  else
    let decimal := (Double.nearest value 1).shortest
    let text := positional decimal
    let hexadecimal := '0' :: 'x' :: Nat.toDigits 16 value
    String.ofList (shortestText text (hexadecimal :: (compact? decimal text).toList))

def fraction (value : Decimal) : String :=
  let text := positional value
  String.ofList (shortestText text (compact? value text).toList)

def needsSpaceBeforePoint (number : String) : Bool :=
  !number.toList.any fun c => c == '.' || c == 'e' || c == 'x'

end JsxLowering.Literal
