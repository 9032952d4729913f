import JsxLowering.Source.Cursor

set_option autoImplicit false

/-!
The readers that make up the grammar of programs with markup. They call each other
through a record of readers.
-/

namespace JsxLowering.Source

/-- A place for a value that is taken apart on its way to names: the parts it is printed from,
the names it declares, and the name that it is if it is nothing else. -/
structure Pattern where
  span : Span
  parts : List Part
  names : List Name
  name? : Option Name

structure Grammar where
  expression : Reader Expr
  assignment : Reader Expr
  unary : Reader Expr
  operand : Reader Expr
  primary : Reader Expr
  binary : Nat → Reader Expr
  statement : Bool → Reader Statement
  body : Reader (List Statement)
  markup : Bool → Reader Markup
  pattern : Reader Pattern
  type : Reader (List Piece)

namespace Grammar

open Reader

def nothing : Grammar where
  expression := unexpected
  assignment := unexpected
  unary := unexpected
  operand := unexpected
  primary := unexpected
  binary _ := unexpected
  statement _ := unexpected
  body := unexpected
  markup _ := unexpected
  pattern := unexpected
  type := unexpected

def sourceText (span : Span) : Reader String := do
  return String.ofList (Text.slice span.start.toNat span.stop.toNat (← get).source)

def condition (grammar : Grammar) : Reader Expr := do
  expect "("
  let value ← joiningIn true grammar.expression
  expect ")"
  return value

def isAtAny (symbols : List String) : Reader Bool := do
  match ← kind with
  | .punctuator symbol => return symbols.contains symbol
  | _ => return false

end Grammar

end JsxLowering.Source
