set_option autoImplicit false

/-!
Where a piece of a program stands in its source: a half-open range of byte offsets.
-/

namespace JsxLowering

/-- The bytes from `start` up to, not including, `stop`. -/
structure Span where
  start : UInt32
  stop : UInt32
  deriving DecidableEq

namespace Span

/-- The span of what has no place in the source. -/
def nowhere : Span := ⟨0, 0⟩

def atStart (span : Span) : Span := ⟨span.start, span.start⟩

/-- The span with `count` bytes less at its start. -/
def dropStart (span : Span) (count : Nat) : Span := ⟨span.start + count.toUInt32, span.stop⟩

/-- The span with `count` bytes less at its end. -/
def dropEnd (span : Span) (count : Nat) : Span := ⟨span.start, span.stop - count.toUInt32⟩

def toText (span : Span) : String :=
  toString span.start.toNat ++ ".." ++ toString span.stop.toNat

end Span

end JsxLowering
