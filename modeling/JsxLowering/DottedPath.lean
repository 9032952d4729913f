import JsxLowering.IdentifierName
import JsxLowering.Text.Blank

set_option autoImplicit false

/-!
Dotted access paths such as `JSX.tag`. A path is never empty and each of its
segments is an identifier name, so that it can always be written as a chain of
static member accesses.
-/

namespace JsxLowering

/-- Why a text is no dotted path. -/
inductive PathError where
  | empty
  | invalidSegment (path segment : String)
  deriving DecidableEq

namespace PathError

def message : PathError → String
  | empty => "expected a dotted path, got an empty string"
  | invalidSegment path segment =>
      "`" ++ segment ++ "` is not a valid identifier (in path `" ++ path ++ "`)"

end PathError

/-- A dotted access path, outermost object first. -/
structure DottedPath where
  segments : List String
  nonempty : segments ≠ []
  valid : ∀ segment ∈ segments, isIdentifierName segment = true
  deriving DecidableEq

namespace DottedPath

/-- The pieces of the text between its dots. -/
def split (text : String) : List String :=
  (Text.pieces (· == '.') text.toList).map String.ofList

theorem split_ne_nil (text : String) : split text ≠ [] := by
  simp [split, Text.pieces_ne_nil]

/-- Reads a dotted path. Of several bad segments the first is named. -/
def parse (text : String) : Except PathError DottedPath :=
  if text = "" then .error .empty
  else
    match found : (split text).find? fun segment => !isIdentifierName segment with
    | some segment => .error (.invalidSegment text segment)
    | none => .ok ⟨split text, split_ne_nil text, by simpa using found⟩

def toText (path : DottedPath) : String := ".".intercalate path.segments

/-- The first segment. -/
def root (path : DottedPath) : String := path.segments.head path.nonempty

/-- The segments after the first. -/
def members (path : DottedPath) : List String := path.segments.tail

end DottedPath

end JsxLowering
