import JsxLowering.Source.Literals

set_option autoImplicit false

/-!
What values are assigned to. What is read as an array or an object may turn out to be a
pattern: a value is taken apart and its pieces are assigned to what stands in it.
-/

namespace JsxLowering

namespace Expr

def isTarget : Expr → Bool
  | identifier .. => true
  | member .. => true
  | index .. => true
  | parenthesized _ inner => inner.isTarget
  | typed _ inner _ => inner.isTarget
  | present _ inner => inner.isTarget
  | _ => false

end Expr

namespace Source

/-- A pattern made of an expression: its parts, and where the properties in it start. -/
structure Covered where
  parts : List Part
  starts : List Nat

namespace Covered

def empty : Covered := ⟨[], []⟩

def append (first second : Covered) : Covered :=
  ⟨first.parts ++ second.parts, first.starts ++ second.starts⟩

def after (parts : List Part) (covered : Covered) : Covered :=
  { covered with parts := parts ++ covered.parts }

def before (parts : List Part) (covered : Covered) : Covered :=
  { covered with parts := covered.parts ++ parts }

def refused (value : Expr) : Diagnostic := .error "Cannot assign to this expression" value.span

/-- The complaint about something that comes after what is left over. -/
def misplaced (span : Span) : Diagnostic := .error "Spread must be last element" span

def ofTarget (value : Expr) : Except Diagnostic Covered :=
  if value.isTarget then
    match value.bare with
    | .identifier span name _ => .ok ⟨[.piece (.binding ⟨span, name⟩)], []⟩
    | target => .ok ⟨[.expr .comma target], []⟩
  else .error (refused value)

def ofForm : Expr → Except Diagnostic Covered
  | .form _ .atomic _ parts => .ok ⟨parts, []⟩
  | value => ofTarget value

mutual

/-- The pattern that an expression is. Inside another it may have a value that is assigned if
there is none. -/
def ofExpr (inner : Bool) : Expr → Except Diagnostic Covered
  | .assign span operator target value => do
      unless inner && operator = "=" do throw (refused (.assign span operator target value))
      return (← ofForm target).before [.gap, .text "=", .gap, .expr .comma value]
  | .array span elements => do
      let inner ← ofItems elements
      return (inner.after [.piece (.link span.start), .text "["]).before [.text "]"]
  | .object span properties => do
      let inner ← ofProperties properties
      return (inner.after [.piece (.link span.start), .text "\x7b"]).before [.text "\x7d"]
  | value => ofTarget value

def ofItems : List Item → Except Diagnostic Covered
  | [] => .ok empty
  | [.hole _] => .ok ⟨[.text ","], []⟩
  | [.expr value] => ofExpr true value
  | [.spread _ argument] => return (← ofExpr false argument).after [.text "..."]
  | .hole _ :: rest => return (← ofItems rest).after [.text ",", .gap]
  | .spread span _ :: _ :: _ => .error (misplaced span)
  | .expr value :: rest => do
      let first ← ofExpr true value
      return (first.before [.text ",", .gap]).append (← ofItems rest)

def ofProperty : Property → Except Diagnostic Covered
  | .keyed span key value shorthand computed => do
      let inner ← ofExpr true value
      let inner := { inner with starts := span.start.toNat :: inner.starts }
      if shorthand then return inner
      return inner.after (Grammar.keyParts key computed ++ [.text ":", .gap])
  | .spread _ argument => return (← ofExpr false argument).after [.text "..."]
  | .method span _ => .error (.error "Cannot assign to this expression" span)

def ofProperties : List Property → Except Diagnostic Covered
  | [] => .ok empty
  | [last] => ofProperty last
  | .spread span _ :: _ :: _ => .error (misplaced span)
  | property :: rest => do
      let first ← ofProperty property
      return (first.before [.text ",", .gap]).append (← ofProperties rest)

end

end Covered

namespace Grammar

open Reader

def requireTarget (target : Expr) : Reader Unit := do
  unless target.isTarget do throw (Covered.refused target)

def isBraced : Expr → Bool
  | .object .. => true
  | _ => false

def target (value : Expr) : Reader Expr := do
  if value.isTarget then return value
  match Covered.ofExpr false value with
  | .error complaint => throw complaint
  | .ok covered =>
      modify fun cursor =>
        { cursor with loose := cursor.loose.filter fun start => !covered.starts.contains start }
      return .form value.span .atomic (isBraced value) covered.parts

end Grammar

end Source

end JsxLowering
