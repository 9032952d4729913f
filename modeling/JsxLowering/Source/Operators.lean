import JsxLowering.Source.Classes
import JsxLowering.Source.Tags
import JsxLowering.Source.Targets

set_option autoImplicit false

/-!
The grammar of expressions.
-/

namespace JsxLowering

namespace Expr

def isImportForm : List Part → Bool
  | .piece (.property name) :: _ => name.text = "import"
  | _ => false

def mark : Expr → Expr
  | call span callee arguments => marked .call (call span callee arguments)
  | form span .constructed guarded parts =>
      if isImportForm parts then form span .constructed guarded parts
      else marked .call (form span .constructed guarded parts)
  | binary span operator left right => binary span operator left.mark right
  | logical span operator left right => logical span operator left.mark right
  | conditional span test yes no => conditional span test.mark yes no
  | parenthesized span inner => parenthesized span inner.mark
  | value => value

def isFunctionForm : List Part → Bool
  | .piece (.property name) :: _ => ["function", "function*", "async function",
      "async function*"].contains name.text
  | .piece (.enters .arrow) :: _ => true
  | _ => false

def markFunction : Expr → Expr
  | arrow span parameters body => marked .function (arrow span parameters body)
  | form span strength guarded parts =>
      if isFunctionForm parts then marked .function (form span strength guarded parts)
      else form span strength guarded parts
  | value => value

end Expr

namespace Source.Grammar

open Reader

/-! Members of arrays and objects. -/

def item (grammar : Grammar) : Reader Item := do
  let start := (← token).start
  if ← eat "..." then
    let argument ← grammar.assignment
    return .spread (← spanFrom start) argument
  else return .expr (← grammar.assignment)

def element? (grammar : Grammar) : Reader Item := do
  if ← isAt "," then return .hole (← tokenSpan).atStart
  grammar.item

/-- Reads a property that is its name alone. One with a value of its own fits only what is
assigned to. -/
def shorthand (grammar : Grammar) : Reader Property := do
  let start := (← token).start
  let name ← identifier
  let value := Expr.identifier name.span name.text true
  if ← eat "=" then
    let standard ← grammar.assignment
    let span ← spanFrom start
    modify fun cursor => { cursor with loose := start :: cursor.loose }
    return .keyed span (.name name) (.assign span "=" value standard) true false
  return .keyed (← spanFrom start) (.name name) value true false

def property (grammar : Grammar) : Reader Property := do
  let start := (← token).start
  if ← eat "..." then
    let argument ← grammar.assignment
    return .spread (← spanFrom start) argument
  let words ← methodWords
  let next ← following
  let goesOn := ["(", ":", "<", "."].any fun symbol => next = .punctuator symbol
  if words.isEmpty && isIdentifier (← kind) && !goesOn then return ← grammar.shorthand
  let (key, computed) ← grammar.propertyName
  if words.isEmpty && (← eat ":") then
    let value ← grammar.assignment
    return .keyed (← spanFrom start) key value false computed
  unless ← isAtAny ["(", "<"] do unexpected
  let parts ← grammar.method words
  let span ← spanFrom start
  return .method span
    (.piece (.link span.start) :: words.parts ++ keyParts key computed ++ parts)

def members {α : Type} (close : String) (member : Reader α) : Reader (List α) := do
  advance
  let found ← joiningIn true (delimited close false member)
  discard (eat ",")
  expect close
  return found

def parenthesized (grammar : Grammar) : Reader Expr := do
  let start := (← token).start
  advance
  let innerStart := (← token).start
  let found ← decorating false (joiningIn true (delimited ")" false grammar.assignment))
  let innerSpan ← spanFrom innerStart
  expect ")"
  match found with
  | [] => throw (.error "Empty parenthesized expression" (← spanFrom start))
  | [inner] => return .parenthesized (← spanFrom start) inner
  | _ => return .parenthesized (← spanFrom start) (.sequence innerSpan found)

def arguments (grammar : Grammar) : Reader (List Item) := do
  expect "("
  let found ← decorating false (joiningIn true (delimited ")" true grammar.item))
  expect ")"
  return found

/-! Operands. -/

def importExpression (grammar : Grammar) : Reader Expr := do
  let start := (← token).start
  advance
  if ← eat "." then
    unless ← isAtWord "meta" do
      advance
      throw (.error "The only valid meta property for import is import.meta" (← spanFrom start))
    advance
    return .verbatim (← spanFrom start) "import.meta"
  unless ← isAt "(" do unexpected
  let items ← grammar.arguments
  let span ← spanFrom start
  return .form span .constructed false
    [.piece (.property ⟨span, "import"⟩), .arguments span items]

def parentObject : Reader Expr := do
  let span ← tokenSpan
  advance
  unless ← isAtAny [".", "[", "("] do
    complain "'super' can only be used with function calls or in property accesses" span
  if (← get).enclosure.inMethod then return .verbatim span "super"
  let message :=
    if ← isAt "(" then
      "Super calls are not permitted outside constructors or in nested functions inside " ++
        "constructors."
    else
      "'super' can only be referenced in members of derived classes or object literal expressions."
  return .form span .atomic false [.piece (.objection message span), .word "super"]

def memberWord : Reader Name := do
  match ← kind with
  | .hidden name =>
      let span ← tokenSpan
      advance
      return ⟨span, "#" ++ name⟩
  | _ => anyWord

def hiddenObjections (name : Name) : Reader (List Part) := do
  if (← get).enclosure.inClass || !name.text.startsWith "#" then return []
  return [.piece (.objection
    ("Private identifier '" ++ name.text ++ "' is not allowed outside class bodies") name.span)]

/-- What was read of an operand. In a chain that may break off, the parts are kept. -/
structure Operand where
  value : Expr
  chain : List Part
  calls : Bool

namespace Operand

def ofExpr (value : Expr) : Operand := ⟨value, [], false⟩

def isChain (operand : Operand) : Bool := !operand.chain.isEmpty

def extend (operand : Operand) (parts : List Part) (calls : Bool) : Operand :=
  let chain := if operand.isChain then operand.chain else [.expr .postfixed operand.value]
  { operand with chain := chain ++ parts, calls := operand.calls || calls }

def toExpr (operand : Operand) (span : Span) : Expr :=
  if operand.isChain then
    let link : List Part := if operand.calls then [.piece (.link span.start)] else []
    .form span .postfixed false (link ++ operand.chain)
  else operand.value

end Operand

def startsExpression (kind : Kind) : Bool :=
  match kind with
  | .identifier _ => true
  | .hidden _ => true
  | .number .. => true
  | .string .. => true
  | .template .. => true
  | .punctuator symbol =>
      ["(", "[", "\x7b", "+", "-", "~", "!", "++", "--", "<", "/", "/=", "@"].contains symbol
  | .keyword word =>
      !reservedWords.contains word || ["class", "delete", "false", "function", "import", "new",
        "null", "super", "this", "true", "typeof", "void"].contains word
  | _ => false

def endsTypeArguments : Reader Bool := do
  let token ← token
  match token.kind with
  | .template .. => return true
  | .punctuator symbol =>
      if symbol = "(" then return true
      if ["<", ">", "+", "-"].contains symbol then return false
      return token.afterNewline || !startsExpression token.kind
  | kind => return token.afterNewline || !startsExpression kind

def operandTypes? (grammar : Grammar) : Reader (Option (List Piece)) := do
  unless (← get).typed && (← isAt "<") do return none
  attempt do
    let types ← grammar.typeArguments
    unless ← endsTypeArguments do unexpected
    return types

def access (grammar : Grammar) (start : Nat) (operand : Operand) : Reader Operand := do
  if ← eat "." then
    let name ← memberWord
    let objections ← hiddenObjections name
    if operand.isChain then
      return operand.extend (objections ++ [.text ".", .piece (.property name)]) false
    let object :=
      if objections.isEmpty then operand.value
      else .form operand.value.span .postfixed false (.expr .postfixed operand.value :: objections)
    return .ofExpr (.member (← spanFrom start) object name)
  advance
  let key ← joiningIn true grammar.expression
  expect "]"
  if operand.isChain then
    return operand.extend [.text "[", .expr .lowest key, .text "]"] false
  return .ofExpr (.index (← spanFrom start) operand.value key)

def tagged (grammar : Grammar) (start : Nat) (operand : Operand) (types : List Piece) :
    Reader Operand := do
  if operand.isChain then
    complain "Tagged template expressions are not permitted in an optional chain" (← tokenSpan)
  let parts ← grammar.template true
  let span ← spanFrom start
  return .ofExpr (.form span .atomic false
    (.piece (.link span.start) :: .expr .postfixed (operand.toExpr span) ::
      types.map Part.piece ++ parts))

def called (grammar : Grammar) (start : Nat) (operand : Operand) (types : List Piece) :
    Reader Operand := do
  let items ← grammar.arguments
  let span ← spanFrom start
  if operand.isChain then
    return operand.extend (types.map Part.piece ++ [.arguments span items]) true
  if types.isEmpty then return .ofExpr (.call span operand.value items)
  return .ofExpr (.form span .constructed false
    (.piece (.link span.start) :: .expr .postfixed operand.value ::
      types.map Part.piece ++ [.arguments span items]))

/-- Reads an access or a call that happens only if there is something to access or to call. -/
def guarded (grammar : Grammar) (start : Nat) (operand : Operand) : Reader Operand := do
  advance
  match ← kind with
  | .punctuator "[" => grammar.access start (operand.extend [.text "?."] false)
  | .punctuator "(" => grammar.called start (operand.extend [.text "?."] false) []
  | .punctuator "<" =>
      match ← grammar.operandTypes? with
      | some types => grammar.called start (operand.extend [.text "?."] false) types
      | none => unexpected
  | _ =>
      let name ← memberWord
      return operand.extend
        ((← hiddenObjections name) ++ [.text "?.", .piece (.property name)]) false

/-- Reads the accesses after an operand that started at an offset, and the calls too unless what
is made new is read. -/
def suffixes (grammar : Grammar) (calls : Bool) (start : Nat) (first : Expr) : Reader Operand :=
  iterate (fun (operand : Operand) => do
    match ← kind with
    | .punctuator "." => return .inl (← grammar.access start operand)
    | .punctuator "[" =>
        if (← get).decorates then return .inr operand
        return .inl (← grammar.access start operand)
    | .punctuator "?." =>
        let next ← following
        if calls || next = .punctuator "[" || startsName next then
          return .inl (← grammar.guarded start operand)
        else return .inr operand
    | .punctuator "(" =>
        if calls then return .inl (← grammar.called start operand []) else return .inr operand
    | .punctuator "!" =>
        if (← get).typed && !(← token).afterNewline then
          advance
          if operand.isChain then return .inl (operand.extend [.text "!"] false)
          return .inl (.ofExpr (.present (← spanFrom start) operand.value))
        else return .inr operand
    | .punctuator "<" =>
        match ← grammar.operandTypes? with
        | none => return .inr operand
        | some types =>
            match ← kind with
            | .template .. => return .inl (← grammar.tagged start operand types)
            | .punctuator "(" =>
                if calls then return .inl (← grammar.called start operand types)
            | _ => pure ()
            let span ← spanFrom start
            return .inl (.ofExpr (.form span .atomic false
              (.expr .postfixed (operand.toExpr span) :: types.map Part.piece)))
    | .template .. => return .inl (← grammar.tagged start operand [])
    | _ => return .inr operand) (.ofExpr first)

def newExpression (grammar : Grammar) : Reader Expr := do
  let start := (← token).start
  advance
  if ← eat "." then
    unless ← isAtWord "target" do
      advance
      throw (.error "The only valid meta property for new is new.target" (← spanFrom start))
    advance
    let span ← spanFrom start
    if (← get).enclosure.inCallable then return .verbatim span "new.target"
    return .form span .atomic false
      [.piece (.objection "Unexpected new.target expression" span), .word "new.target"]
  let calleeStart := (← token).start
  let callee ← grammar.suffixes false calleeStart (← grammar.primary)
  let calleeSpan ← spanFrom calleeStart
  let items ← if ← isAt "(" then grammar.arguments else pure []
  let span ← spanFrom start
  if callee.isChain then
    complain "Constructors in/after an Optional Chain are not allowed." span
  return .form span .constructed false
    [.piece (.property ⟨span, "new"⟩), .text " ",
      .expr .constructed (callee.toExpr calleeSpan), .arguments span items]

def readPrimary (grammar : Grammar) : Reader Expr := do
  if ← isAtFunction then return ← grammar.functionExpression
  let token ← token
  let span ← tokenSpan
  let literal (value : Expr) : Reader Expr := do
    advance
    return value
  match token.kind with
  | .number _ value => literal (← numeral span value)
  | .string value whole => literal (← stringLiteral span value whole)
  | .template .. => grammar.templateLiteral
  | .keyword "this" => literal (.this span)
  | .keyword "null" => literal (.null span)
  | .keyword "true" => literal (.boolean span true)
  | .keyword "false" => literal (.boolean span false)
  | .keyword "class" => grammar.classExpression
  | .punctuator "@" =>
      grammar.decorators
      grammar.primary
  | .keyword "new" => grammar.newExpression
  | .keyword "import" => grammar.importExpression
  | .keyword "super" => parentObject
  | .punctuator "/" => regex
  | .punctuator "/=" => regex
  | .punctuator "<" => return .markup (← grammar.readMarkup false)
  | .punctuator "(" => grammar.parenthesized
  | .punctuator "[" =>
      let elements ← members "]" grammar.element?
      return .array (← spanFrom token.start) elements
  | .punctuator "\x7b" =>
      let properties ← members "\x7d" grammar.property
      return .object (← spanFrom token.start) properties
  | _ =>
      let name ← identifier
      return .identifier name.span name.text true

def readOperand (grammar : Grammar) : Reader Expr := do
  let start := (← token).start
  let operand ← grammar.suffixes true start (← grammar.readPrimary)
  return operand.toExpr (← spanFrom start)

def unaryOperator? : Kind → Option String
  | .punctuator symbol => if ["!", "-", "+", "~"].contains symbol then some symbol else none
  | .keyword word => if ["typeof", "void", "delete"].contains word then some word else none
  | _ => none

def updateOperator? : Kind → Option String
  | .punctuator symbol => if ["++", "--"].contains symbol then some symbol else none
  | _ => none

def operandFollows : Reader Bool := ahead do
  advance
  let token ← token
  let isOperand :=
    match token.kind with
    | .number .. => true
    | .string .. => true
    | kind => kind.word?.isSome
  return isOperand && !token.afterNewline

def prefixed (grammar : Grammar) (operator : String) : Reader Expr := do
  let start := (← token).start
  advance
  let marked := (← token).marked
  let argument ← grammar.unary
  return .unary (← spanFrom start) operator (if marked then argument.mark else argument)

def stepped (grammar : Grammar) : Reader Expr := do
  let start := (← token).start
  let value ← grammar.readOperand
  match updateOperator? (← kind) with
  | some operator =>
      if (← token).afterNewline then return value
      advance
      requireTarget value
      return .update (← spanFrom start) operator false value
  | none => return value

/-- Reads an operand. An element takes no accesses or calls after it. -/
def readUnary (grammar : Grammar) : Reader Expr := do
  let token ← token
  match unaryOperator? token.kind, updateOperator? token.kind with
  | some operator, _ => grammar.prefixed operator
  | none, some operator =>
      advance
      let target ← grammar.unary
      requireTarget target
      return .update (← spanFrom token.start) operator true target
  | none, none =>
      if token.kind = .punctuator "<" && (← following).word?.isSome then
        return .markup (← grammar.readMarkup false)
      else if token.kind = .keyword "await" && ((← get).waits || (← operandFollows)) then
        unless (← get).waits do
          complain
            "`await` is only allowed within async functions and at the top levels of modules"
            (← tokenSpan)
        grammar.prefixed "await"
      else grammar.stepped

/-! Operators. -/

/-- The operators that start with a closing angle bracket, longest first. -/
def angleOperators : List String := [">>>=", ">>>", ">>=", ">>", ">="]

def joinAngles : Reader Unit := modify fun cursor =>
  let text := '>' :: cursor.lexer.rest
  if cursor.token.kind = .punctuator ">" then
    match angleOperators.find? fun symbol => symbol.toList.isPrefixOf text with
    | some symbol =>
        let lexer := cursor.lexer.skip (symbol.length - 1)
        { cursor with
          lexer
          token := { cursor.token with kind := .punctuator symbol, stop := lexer.offset } }
    | none => cursor
  else cursor

def strengths : List (String × Nat) :=
  [("??", 1), ("||", 2), ("&&", 3), ("|", 4), ("^", 5), ("&", 6), ("==", 7), ("!=", 7),
   ("===", 7), ("!==", 7), ("<", 8), (">", 8), ("<=", 8), (">=", 8), ("instanceof", 8),
   ("in", 8), ("as", 8), ("satisfies", 8), ("<<", 9), (">>", 9), (">>>", 9), ("+", 10),
   ("-", 10), ("*", 11), ("/", 11), ("%", 11), ("**", 12)]

def typeOperatorWords : List String := ["as", "satisfies"]

/-- The operator that a token is, and how tight it binds. A type may be asserted only where
types may be used, on the line of the expression. -/
def operator? (cursor : Cursor) : Option (String × Nat) :=
  let found (symbol : String) := (strengths.lookup symbol).map fun strength => (symbol, strength)
  match cursor.token.kind with
  | .punctuator symbol => found symbol
  | .keyword word =>
      if typeOperatorWords.contains word then
        if cursor.typed && !cursor.token.afterNewline then found word else none
      else if word = "in" && !cursor.joinsIn then none
      else found word
  | _ => none

def operation (span : Span) (operator : String) (left right : Expr) : Expr :=
  if ["??", "||", "&&"].contains operator then .logical span operator left right
  else .binary span operator left right

def assertedType (grammar : Grammar) (start : Nat) (operator : String) (value : Expr) :
    Reader Expr := do
  let type ←
    if operator = "as" && (← isAtWord "const") then
      advance
      pure [Piece.word "const"]
    else grammar.type
  let span ← spanFrom start
  if operator = "as" then return .typed span value type
  return .form span .shift false
    (.expr .power value :: .text " satisfies " :: type.map Part.piece)

def hiddenMember (grammar : Grammar) (name : String) : Reader Expr := do
  let start := (← token).start
  let span ← tokenSpan
  advance
  expectWord "in"
  let object ← grammar.unary
  let name : Name := ⟨span, "#" ++ name⟩
  return .form (← spanFrom start) .comparison false
    ((← hiddenObjections name) ++
      [.piece (.property name), .text " in ", .expr .comparison object])

def firstOperand (grammar : Grammar) : Reader Expr := do
  match ← kind with
  | .hidden name =>
      if (← get).joinsIn then grammar.hiddenMember name else grammar.readUnary
  | _ => grammar.readUnary

def readBinary (grammar : Grammar) (floor : Nat) : Reader Expr := do
  let start := (← token).start
  let step (left : Expr) : Reader (Expr ⊕ Expr) := do
    joinAngles
    match operator? (← get) with
    | none => return .inr left
    | some (operator, strength) =>
        let rightToLeft := operator = "**"
        unless floor < strength || (rightToLeft && floor ≤ strength) do return .inr left
        advance
        if typeOperatorWords.contains operator then
          return .inl (← grammar.assertedType start operator left)
        let right ← grammar.binary strength
        return .inl (operation (← spanFrom start) operator left right)
  iterate step (← grammar.firstOperand)

/-! Assignments. -/

def assignmentOperators : List String :=
  ["=", "+=", "-=", "*=", "/=", "%=", "**=", "<<=", ">>=", ">>>=", "&=", "|=", "^=", "&&=", "||=",
   "??="]

/-- Reads what follows the operands of a condition or an assignment, or the parameter of an
arrow function. -/
def afterOperand (grammar : Grammar) (first : Token) (left : Expr) : Reader Expr := do
  let finish (value : Expr) : Expr :=
    let value := if first.marked then value.mark else value
    if first.markedFunction then value.markFunction else value
  match left, ← kind with
  | .identifier span name _, .punctuator "=>" =>
      arrow
      let function ← grammar.arrowRest first.start false (.ofName ⟨span, name⟩)
      return if first.markedFunction then function.markFunction else function
  | _, .punctuator symbol =>
      if assignmentOperators.contains symbol then
        let target ← if symbol = "=" then target left else requireTarget left *> pure left
        advance
        let value ← grammar.assignment
        return .assign (← spanFrom first.start) symbol target value
      else if symbol = "?" then
        advance
        let yes ← joiningIn true grammar.assignment
        expect ":"
        let no ← grammar.assignment
        return finish (.conditional (← spanFrom first.start) left yes no)
      else return finish left
  | _, _ => return finish left

def endsYield (kind : Kind) : Bool :=
  match kind with
  | .endOfFile => true
  | .punctuator symbol => [";", "\x7d", ")", "]", ":", ","].contains symbol
  | .keyword word => word == "in" || word == "of"
  | _ => false

def yieldExpression (grammar : Grammar) : Reader Expr := do
  let start := (← token).start
  advance
  let sameLine := !(← token).afterNewline
  let delegates ← if sameLine then eat "*" else pure false
  let argument : List Part ←
    if sameLine && (delegates || !endsYield (← kind)) then
      let value ← grammar.assignment
      pure [.gap, .expr .yield value]
    else pure []
  let span ← spanFrom start
  return .form span .yield false
    (.piece (.property ⟨span, if delegates then "yield*" else "yield"⟩) :: argument)

def readAssignment (grammar : Grammar) : Reader Expr := do
  let token ← token
  if token.kind = .keyword "yield" && (← get).yields then return ← grammar.yieldExpression
  match ← grammar.arrowFunction? with
  | some function => return if token.markedFunction then function.markFunction else function
  | none => grammar.afterOperand token (← grammar.readBinary 0)

def readExpression (grammar : Grammar) : Reader Expr := do
  let start := (← token).start
  let first ← grammar.readAssignment
  unless ← isAt "," do return first
  let expressions ← iterate (fun (found : List Expr) => do
    if ← eat "," then return .inl ((← grammar.assignment) :: found)
    else return .inr found.reverse) [first]
  return .sequence (← spanFrom start) expressions

end Source.Grammar

end JsxLowering
