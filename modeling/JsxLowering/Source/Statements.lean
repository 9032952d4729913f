import JsxLowering.Source.Control

set_option autoImplicit false

/-!
The grammar of statements, and the whole grammar. The record of readers is tied to itself
as often as there are characters: whatever one reader asks of another lies behind at
least one token.
-/

namespace JsxLowering.Source.Grammar

open Reader

def block (grammar : Grammar) : Reader Statement := do
  let (span, body) ← joiningIn true grammar.statements
  return .block span body

def expressionOrLabeled (grammar : Grammar) : Reader Statement := do
  let start := (← token).start
  let value ← grammar.readExpression
  match value, ← kind with
  | .identifier span name _, .punctuator ":" =>
      advance
      let body ← grammar.statement true
      return .labeled (← spanFrom start) ⟨span, name⟩ body
  | _, _ => expressionStatement start value

/-- Reads a statement without what is said about it before. -/
def plainStatement (grammar : Grammar) (single : Bool) : Reader Statement := do
  let start := (← token).start
  if ← isAtFunction then return ← grammar.function single
  if ← isAtTypeDeclaration then return ← grammar.typeDeclaration
  match ← kind with
  | .punctuator ";" =>
      advance
      return .empty (← spanFrom start)
  | .punctuator "\x7b" => grammar.block
  | .keyword "if" => grammar.conditional
  | .keyword "return" => grammar.returnStatement
  | .keyword "let" =>
      if (← token).escaped then grammar.expressionOrLabeled else grammar.letStatement single
  | .keyword "const" => grammar.variableStatement .constant single
  | .keyword "var" => grammar.variableStatement .hoisted single
  | .keyword "class" => grammar.classStatement single
  | .keyword "export" => grammar.exportStatement
  | .keyword "import" =>
      if [.punctuator ".", .punctuator "("].contains (← following) then
        grammar.expressionOrLabeled
      else importStatement
  | .keyword "while" => grammar.whileStatement
  | .keyword "do" => grammar.doStatement
  | .keyword "for" => grammar.forStatement
  | .keyword "switch" => grammar.switchStatement
  | .keyword "break" => jumpStatement "break"
  | .keyword "continue" => jumpStatement "continue"
  | .keyword "throw" => grammar.throwStatement
  | .keyword "try" => grammar.tryStatement
  | .keyword "with" => grammar.withStatement
  | .keyword "debugger" => debuggerStatement
  | _ => grammar.expressionOrLabeled

def markStatement (statement : Statement) : Statement :=
  match statement with
  | .exportDeclaration _ declaration =>
      if declaration.isFunction then .marked statement else statement
  | .exportDefault span value => .exportDefault span value.markFunction
  | _ => if statement.isFunction then .marked statement else statement

def readStatement (grammar : Grammar) (single : Bool) : Reader Statement := do
  let marked := (← token).markedFunction
  grammar.decorators
  let statement ← grammar.plainStatement single
  return if marked then markStatement statement else statement

/-! Bodies. -/

/-- The directives and statements read so far, latest first. -/
structure Body where
  directives : List Directive
  statements : List Statement
  /-- Whether a string would still be a directive. -/
  opening : Bool

def stringSpan? : Expr → Option Span
  | .string span _ => some span
  | .verbatim span text =>
      if ["\"", "'"].any fun quote => text.startsWith quote then some span else none
  | _ => none

/-- Adds a statement to a body, or a directive if it is one: a string that comes before all
other statements. -/
def addItem (body : Body) (statement : Statement) : Reader Body := do
  let other := { body with statements := statement :: body.statements, opening := false }
  match statement with
  | .expression span value =>
      match stringSpan? value with
      | some literal =>
          if body.opening && span.start = literal.start then
            let text ← sourceText ⟨literal.start + 1, literal.stop - 1⟩
            return { body with directives := ⟨span, text⟩ :: body.directives }
          else return other
      | none => return other
  | _ => return other

def readItems (grammar : Grammar) (topLevel : Bool) : Reader Body := do
  let body ← iterate (fun (body : Body) => do
    if (← kind) = .endOfFile || (!topLevel && (← isAt "\x7d")) then return .inr body
    return .inl (← addItem body (← grammar.statement false))) ⟨[], [], true⟩
  return { body with directives := body.directives.reverse, statements := body.statements.reverse }

def readFunctionBody (grammar : Grammar) : Reader (List Statement) := do
  let body ← grammar.readItems false
  let directives := body.directives.map fun directive =>
    Statement.directive directive.span directive.value
  return directives ++ body.statements

def extended (grammar : Grammar) : Grammar where
  expression := grammar.readExpression
  assignment := grammar.readAssignment
  unary := grammar.readUnary
  operand := grammar.readOperand
  primary := grammar.readPrimary
  binary := grammar.readBinary
  statement := grammar.readStatement
  body := grammar.readFunctionBody
  markup := grammar.readMarkup
  pattern := grammar.readPattern
  type := grammar.readType

/-- The grammar for texts that nest at most as deep as the given number. -/
def ofDepth : Nat → Grammar
  | 0 => nothing
  | depth + 1 => extended (ofDepth depth)

end JsxLowering.Source.Grammar
