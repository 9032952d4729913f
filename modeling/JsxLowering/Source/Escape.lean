import JsxLowering.Entity

set_option autoImplicit false

/-!
Escapes in strings and names. An escape that makes no sense is complained about, and
reading goes on behind the part of it that was understood.
-/

namespace JsxLowering.Source

def isLineBreak (c : Char) : Bool :=
  c == '\n' || c == '\r' || c.toNat == 0x2028 || c.toNat == 0x2029

/-- What an escape stands for, and the text after it. It is not `whole` if it stands for half of
a pair, which is no character. -/
structure Escape where
  value : List Char
  rest : List Char
  valid : Bool
  whole : Bool

namespace Escape

def invalid (rest : List Char) : Escape := ⟨[], rest, false, true⟩

/-- Takes so many hexadecimal digits: their value, unless there are fewer, and the text after
those that there are. -/
def hexDigits (value : Nat) : Nat → List Char → Option Nat × List Char
  | 0, text => (some value, text)
  | _ + 1, [] => (none, [])
  | count + 1, c :: rest =>
      match Entity.digit? 16 c with
      | some digit => hexDigits (value * 16 + digit) count rest
      | none => (none, c :: rest)

def codePoint (value : Nat) : List Char → Option Nat × List Char
  | [] => (some value, [])
  | c :: rest =>
      match Entity.digit? 16 c with
      | some digit =>
          if value * 16 + digit ≤ 0x10FFFF then codePoint (value * 16 + digit) rest
          else (none, rest)
      | none => (some value, c :: rest)

def bracedPoint (text : List Char) : Option Nat × List Char :=
  match hexDigits 0 1 text with
  | (none, rest) => (none, rest)
  | (some first, rest) =>
      match codePoint first rest with
      | (some value, '\x7d' :: after) => (some value, after)
      | (_, after) => (none, after)

/-- The character of a code point. Half of a pair is no character and is replaced. -/
def charOf (code : Nat) : Char := (Entity.scalar? code).getD '�'

def ofCode (code : Nat) (rest : List Char) : Escape :=
  ⟨[charOf code], rest, true, (Entity.scalar? code).isSome⟩

/-- Whether a code is the first half of a pair. -/
def isHigh (code : Nat) : Bool := 0xD800 ≤ code && code ≤ 0xDBFF

def isLow (code : Nat) : Bool := 0xDC00 ≤ code && code ≤ 0xDFFF

/-- Two codes of which the first is the first half of a pair. -/
def ofPair (high low : Nat) (rest : List Char) : Escape :=
  if isLow low then ofCode ((high - 0xD800) * 0x400 + (low - 0xDC00) + 0x10000) rest
  else ⟨[charOf high, charOf low], rest, true, false⟩

def startsPair (text : List Char) : Bool :=
  match hexDigits 0 4 text with
  | (some code, '\\' :: 'u' :: _) => isHigh code
  | _ => false

def unicode (text : List Char) : Escape :=
  match text with
  | '\x7b' :: digits =>
      match bracedPoint digits with
      | (some code, rest) => ofCode code rest
      | (none, rest) => invalid rest
  | _ =>
      match hexDigits 0 4 text with
      | (none, rest) => invalid rest
      | (some high, '\\' :: 'u' :: more) =>
          if isHigh high then
            match hexDigits 0 4 more with
            | (some low, rest) => ofPair high low rest
            | (none, rest) => invalid rest
          else ofCode high ('\\' :: 'u' :: more)
      | (some code, rest) => ofCode code rest

def hexadecimal (text : List Char) : Escape :=
  match hexDigits 0 2 text with
  | (some code, rest) => ofCode code rest
  | (none, rest) => invalid rest

def isOctal (c : Char) : Bool := '0' ≤ c && c ≤ '7'

/-- Reads an escape of octal digits. There may be three of them if the first is small. -/
def octal (first : Char) (text : List Char) : Escape :=
  let limit := if first ≤ '3' then 2 else 1
  let digits := first :: (text.take limit).takeWhile isOctal
  ofCode ((Entity.number? 8 digits).getD 0) (text.drop (digits.length - 1))

/-- The character that a one-letter escape stands for; most stand for themselves. -/
def ofLetter (c : Char) : Char :=
  if c == 'n' then '\n'
  else if c == 't' then '\t'
  else if c == 'r' then '\r'
  else if c == 'b' then '\x08'
  else if c == 'f' then '\x0c'
  else if c == 'v' then '\x0b'
  else c

def read (first : Char) (rest : List Char) : Escape :=
  if first == '\r' then ⟨[], if rest.head? = some '\n' then rest.tail else rest, true, true⟩
  else if isLineBreak first then ⟨[], rest, true, true⟩
  else if first == 'x' then hexadecimal rest
  else if first == 'u' then unicode rest
  else if first == '0' && !(rest.head?.any fun c => '0' ≤ c && c ≤ '9') then
    ⟨['\x00'], rest, true, true⟩
  else if isOctal first then octal first rest
  else ⟨[ofLetter first], rest, true, true⟩

/-- Whether an escape, after its backslash, makes sense in text in backticks, where digits stand
for nothing but zero. -/
def fitsTemplate (first : Char) (rest : List Char) : Bool :=
  let digitFollows := rest.head?.any fun c => '0' ≤ c && c ≤ '9'
  if '0' ≤ first && first ≤ '9' then first == '0' && !digitFollows else (read first rest).valid

end Escape

end JsxLowering.Source
