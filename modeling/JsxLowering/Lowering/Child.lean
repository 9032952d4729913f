import JsxLowering.Syntax
import JsxLowering.Text.Blank
import JsxLowering.Text.Utf8

set_option autoImplicit false

/-!
The children of an element or fragment. Only the two ends of the list are touched:
a text there that is all white space goes away, or becomes empty if it is the only
child left, and any other text loses the white space on its outer side. Text in
between is kept as it is written.
-/

namespace JsxLowering

/-- A text child: its value with character references decoded, its source text, and where
the source text stands. -/
structure TextChild where
  span : Span
  value : List Char
  raw : List Char
  deriving DecidableEq

inductive LoweredChild where
  | text (content : TextChild)
  | expr (value : Expr)
  | spread (span : Span) (argument : Expr)

inductive Side where
  | first
  | last
  deriving DecidableEq

inductive Trimming where
  | keep
  | replace (content : TextChild)
  | remove
  deriving DecidableEq

namespace Side

def strip : Side → List Char → List Char
  | first => Text.trimStart
  | last => Text.trimEnd

def narrow : Side → Span → Nat → Span
  | first => Span.dropStart
  | last => Span.dropEnd

end Side

namespace TextChild

/-- The text with nothing in it. -/
def blanked (content : TextChild) : TextChild := ⟨content.span.atStart, [], []⟩

/-- Decides what becomes of a text at one end of the list. -/
def trim (content : TextChild) (side : Side) (sole : Bool) : Trimming :=
  if Text.trim content.value = [] then
    if sole then .replace content.blanked else .remove
  else
    let value := side.strip content.value
    let raw := side.strip content.raw
    if raw.length = content.raw.length ∧ value.length = content.value.length then .keep
    else
      .replace ⟨side.narrow content.span (Text.byteLength content.raw - Text.byteLength raw),
        value, raw⟩

end TextChild

namespace LoweredChild

def toItem : LoweredChild → Item
  | text content => .expr (.string content.span (String.ofList content.value))
  | expr value => .expr value
  | spread span argument => .spread span argument

/-- Trims the first child of the list for the given side. -/
def trimHead (side : Side) : List LoweredChild → List LoweredChild
  | text content :: rest =>
      match content.trim side rest.isEmpty with
      | .keep => text content :: rest
      | .replace trimmed => text trimmed :: rest
      | .remove => rest
  | children => children

/-- Trims one end of the list. -/
def trimEdge : Side → List LoweredChild → List LoweredChild
  | .first, children => trimHead .first children
  | .last, children => (trimHead .last children.reverse).reverse

/-- Trims both ends of the list, the start before the end. -/
def normalize (children : List LoweredChild) : List LoweredChild :=
  trimEdge .last (trimEdge .first children)

def toArray (span : Span) (children : List LoweredChild) : Expr :=
  .array span ((normalize children).map toItem)

end LoweredChild

end JsxLowering
