import JsxLowering.Text.Alphanumeric
import JsxLowering.Text.Printable

set_option autoImplicit false

/-!
How a text is set in lines, and what comes on the first of them. A line may end after
blanks, after a hyphen inside a word, and beside characters that are written without
blanks between words.

Of all ways to set a text the best is taken, not the one that fills the first line: a line
that is left short counts by the square of what is missing, and a last word on its own
counts too.
-/

namespace JsxLowering.Text

/-- The code points of the scripts of East Asia and of the pictures, which take two columns. -/
def wideRanges : CodeRanges :=
  [(0x1100, 0x115F), (0x2E80, 0x303E), (0x3041, 0x33FF), (0x3400, 0x4DBF), (0x4E00, 0xA4CF),
   (0xA960, 0xA97C), (0xAC00, 0xD7A3), (0xF900, 0xFAFF), (0xFE30, 0xFE6F), (0xFF01, 0xFF60),
   (0xFFE0, 0xFFE6), (0x16FE0, 0x18DFF), (0x1AFF0, 0x1B2FF), (0x1F300, 0x1F64F),
   (0x1F680, 0x1F6FF), (0x1F900, 0x1FAFF), (0x20000, 0x2FFFD), (0x30000, 0x3FFFD)]

/-- The wide characters that no line starts with: small letters and marks of repetition. -/
def nonstarterRanges : CodeRanges :=
  [(0x3001, 0x3002), (0x3005, 0x3005), (0x301C, 0x301C), (0x303B, 0x303C), (0x3041, 0x3041),
   (0x3043, 0x3043), (0x3045, 0x3045), (0x3047, 0x3047), (0x3049, 0x3049), (0x3063, 0x3063),
   (0x3083, 0x3083), (0x3085, 0x3085), (0x3087, 0x3087), (0x308E, 0x308E), (0x3095, 0x3096),
   (0x309B, 0x309E), (0x30A0, 0x30A1), (0x30A3, 0x30A3), (0x30A5, 0x30A5), (0x30A7, 0x30A7),
   (0x30A9, 0x30A9), (0x30C3, 0x30C3), (0x30E3, 0x30E3), (0x30E5, 0x30E5), (0x30E7, 0x30E7),
   (0x30EE, 0x30EE), (0x30F5, 0x30F6), (0x30FB, 0x30FE), (0x31F0, 0x31FF)]

/-- A character that takes two columns. -/
def isWide (c : Char) : Bool := inRanges wideRanges c

def columns (c : Char) : Nat :=
  if isWide c then 2
  else if c == ' ' || isPrintable c then 1
  else 0

def textColumns (text : List Char) : Nat := text.foldr (fun c total => columns c + total) 0

/-- Whether a line may end between two characters that no blank is next to. -/
def mayBreak (before c next : Char) : Bool :=
  if c == '-' then isAlphanumeric before && isAlphanumeric next
  else if isWide next then
    !inRanges nonstarterRanges next && !(['\'', '"', '$', '('].contains c)
  else
    isWide c && columns next != 0 &&
      (isAlphanumeric next || ['_', '$', '\x60'].contains next)

/-- The pieces of a text that a line break leaves whole, each with the blanks after it. -/
def linePieces (before : Char) : List Char → List (List Char)
  | [] => []
  | [last] => [[last]]
  | c :: next :: rest =>
      let ends :=
        if next == ' ' then false
        else if c == ' ' then true
        else mayBreak before c next
      let pieces := linePieces c (next :: rest)
      if ends then [c] :: pieces
      else
        match pieces with
        | piece :: others => (c :: piece) :: others
        | [] => [[c]]

/-- A text without the blanks at its end. -/
def withoutBlanks (text : List Char) : List Char :=
  (text.reverse.dropWhile (· == ' ')).reverse

/-- Cuts a text where it gets wider than a line of which some columns are taken. -/
def cutAt (width taken : Nat) : List Char → List (List Char)
  | [] => [[]]
  | c :: rest =>
      let wider := 0 < taken && width < taken + columns c
      match cutAt width (if wider then columns c else taken + columns c) rest with
      | piece :: others => if wider then [] :: (c :: piece) :: others else (c :: piece) :: others
      | [] => [[c]]

/-- The parts of a piece that is wider than a line. -/
def breakPiece (width : Nat) (piece : List Char) : List (List Char) :=
  if width < textColumns (withoutBlanks piece) then cutAt width 0 piece else [piece]

/-- How bad a line is that takes so many columns, where it may be a single piece, or the last
line. -/
def badness (width taken : Nat) (single last : Bool) : Nat :=
  let fault :=
    if width < taken then 2500 * (taken - width)
    else if !last then (width - taken) * (width - taken)
    else if single && 4 * taken < width then 25
    else 0
  1000 + fault

/-- The ways to set the first line of pieces, of which it has taken some: how bad all the lines
then are, and how many pieces are on the first. It is given how bad the lines are after each
piece. -/
def firstLines (width taken count : Nat) : List (List Char) → List Nat → List (Nat × Nat)
  | [], _ => []
  | piece :: rest, later =>
      let line := taken + textColumns (withoutBlanks piece)
      let cost := badness width line (count == 0) rest.isEmpty + later.headD 0
      (cost, count + 1) ::
        firstLines width (taken + textColumns piece) (count + 1) rest later.tail

def bestWay (ways : List (Nat × Nat)) : Nat × Nat :=
  match ways with
  | [] => (0, 0)
  | first :: others =>
      others.foldl (fun best way => if way.1 < best.1 then way else best) first

def lineCosts (width : Nat) : List (List Char) → List Nat
  | [] => [0]
  | piece :: rest =>
      let later := lineCosts width rest
      (bestWay (firstLines width 0 0 (piece :: rest) later)).1 :: later

/-- The part of a text that comes on the first line of the given width. What starts the line
counts as a piece of its own. -/
def firstLine (width : Nat) (text : String) : String :=
  let line := text.toList.takeWhile (· != '\n')
  let pieces := [] :: (linePieces ' ' line).flatMap (breakPiece width)
  let best := bestWay (firstLines width 0 0 pieces (lineCosts width pieces).tail)
  String.ofList (withoutBlanks (pieces.take best.2).flatten)

end JsxLowering.Text
