import JsxLowering.Source.Operators

set_option autoImplicit false

/-!
The grammar of declarations of variables. Where every variable is a plain name the
declaration is a node of its own; otherwise it is kept as its parts.
-/

namespace JsxLowering

namespace Source

/-- One variable of a declaration: the place for its value, its type and its first value. -/
structure Variable where
  span : Span
  place : Pattern
  type : List Piece
  init : Option Expr

namespace Variable

def declarator? (slot : Variable) : Option Declarator :=
  slot.place.name?.map fun name => .mk slot.span name slot.type slot.init

def parts (binding : Binding) (slot : Variable) : List Part :=
  slot.place.names.map (fun name => .piece (.declares binding name)) ++
    slot.place.parts ++ slot.type.map Part.piece ++
    (match slot.init with
      | some value => [.gap, .text "=", .gap, .expr .comma value]
      | none => [])

def mark (slot : Variable) : Variable :=
  { slot with init := slot.init.map Expr.markFunction }

end Variable

namespace Grammar

open Reader

def variableKind? : Kind → Option VariableKind
  | .keyword "const" => some .constant
  | .keyword "let" => some .lexical
  | .keyword "var" => some .hoisted
  | _ => none

/-- Reads one variable of a declaration. Its name reaches to the end of its type. -/
def readVariable (grammar : Grammar) : Reader Variable := do
  let start := (← token).start
  let found ← grammar.pattern
  let mark : List Piece ←
    if (← get).typed && found.name?.isSome && (← isAt "!") && !(← token).afterNewline then
      advance
      pure [.text "!"]
    else pure []
  let type := mark ++ (← grammar.annotation)
  let place ←
    match found.name? with
    | some name =>
        if type.isEmpty then pure found
        else pure (namePattern ⟨← spanFrom start, name.text⟩)
    | none => pure found
  let init ← if ← eat "=" then some <$> grammar.assignment else pure none
  return ⟨← spanFrom start, place, type, init⟩

def checkInit (kind : VariableKind) (slot : Variable) : Reader Unit := do
  if slot.init.isNone then
    if slot.place.name?.isNone then
      complain "Missing initializer in destructuring declaration" slot.place.span
    else if kind = .constant then
      complain "Missing initializer in const declaration" slot.place.span

def variableList (grammar : Grammar) (check : Variable → Reader Unit) : Reader (List Variable) := do
  advance
  let one : Reader Variable := do
    let slot ← grammar.readVariable
    check slot
    return slot
  let first ← one
  iterate (fun (found : List Variable) => do
    if ← eat "," then return .inl ((← one) :: found)
    else return .inr found.reverse) [first]

def declarators? : List Variable → Option (List Declarator)
  | [] => some []
  | slot :: rest =>
      match slot.declarator?, declarators? rest with
      | some declarator, some declarators => some (declarator :: declarators)
      | _, _ => none

def declarationParts (kind : VariableKind) (slots : List Variable) : List Part :=
  .word kind.word :: .gap :: Part.separated (slots.map (Variable.parts kind.binding))

/-- The variables of which the first is marked as a function free of effects. -/
def markFirst (kind : VariableKind) (marked : Bool) : List Variable → List Variable
  | first :: rest => (if marked && kind = .constant then first.mark else first) :: rest
  | [] => []

def variableNames (slots : List Variable) : List Name :=
  slots.flatMap fun slot => slot.place.names

def declaration (grammar : Grammar) (kind : VariableKind) (marked : Bool) :
    Reader (Statement × List Name) := do
  let start := (← token).start
  let found ← grammar.variableList (checkInit kind)
  let slots := markFirst kind marked found
  endStatement
  let span ← spanFrom start
  let names := variableNames slots
  match declarators? slots with
  | some declarators => return (.declaration span kind declarators, names)
  | none => return (.form span true (declarationParts kind slots ++ [.piece .ending]), names)

/-- Reads a declaration of variables where a statement stands. A branch may not declare
anything lexical. -/
def variableStatement (grammar : Grammar) (kind : VariableKind) (single : Bool) :
    Reader Statement := do
  let marked := (← token).markedFunction
  let (statement, _) ← grammar.declaration kind marked
  if single && kind != .hoisted then
    complain "Lexical declaration cannot appear in a single-statement context" statement.span
  return statement

def expressionStatement (start : Nat) (value : Expr) : Reader Statement := do
  endStatement
  return .expression (← spanFrom start) value

def joinsValues (kind : Kind) : Bool :=
  match kind with
  | .punctuator symbol =>
      assignmentOperators.contains symbol || (strengths.lookup symbol).isSome
  | .keyword word => word == "in" || word == "instanceof"
  | _ => false

/-- Reads a statement that starts with the word `let`, which is a name where no other name can
follow. An access or a call needs no end. -/
def letStatement (grammar : Grammar) (single : Bool) : Reader Statement := do
  let start := (← token).start
  let next ← following
  if joinsValues next then expressionStatement start (← grammar.readAssignment)
  else if next = .punctuator "." || next = .punctuator "(" then
    let value ← grammar.readExpression
    return .expression (← spanFrom start) value
  else if (single && next != .punctuator "[") || next = .punctuator ";" then
    let name ← identifier
    expressionStatement start (.identifier name.span name.text true)
  else grammar.variableStatement .lexical single

end Grammar

end Source

end JsxLowering
