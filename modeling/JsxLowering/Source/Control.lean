import JsxLowering.Source.Modules

set_option autoImplicit false

/-!
The grammar of statements that say what is done next: branches, loops, cases, jumps and what is
done when something goes wrong.
-/

namespace JsxLowering.Source.Grammar

open Reader

def conditional (grammar : Grammar) : Reader Statement := do
  let start := (← token).start
  advance
  let test ← grammar.condition
  let yes ← grammar.statement true
  let no ← if ← eatWord "else" then some <$> grammar.statement true else pure none
  return .ifElse (← spanFrom start) test yes no

def returnStatement (grammar : Grammar) : Reader Statement := do
  let start := (← token).start
  let span ← tokenSpan
  advance
  let argument ← if ← mayEnd then pure none else some <$> joiningIn true grammar.expression
  endStatement
  unless (← get).inFunction do
    complain "TS(1108): A 'return' statement can only be used within a function body." span
  return .ret (← spanFrom start) argument

/-! Loops. -/

def bareFunction (body : Statement) : List Part :=
  if body.isFunction then [.piece (.objection "Invalid function declaration" body.span)] else []

def repeated (body : Statement) : List Part :=
  .piece (.within .loop) :: .statement true body :: .piece .without :: bareFunction body

def whileStatement (grammar : Grammar) : Reader Statement := do
  let start := (← token).start
  advance
  let test ← grammar.condition
  let body ← grammar.statement true
  return .form (← spanFrom start) false
    (.word "while" :: .gap :: .text "(" :: .expr .lowest test :: .text ")" :: repeated body)

def doParts : Statement → List Part
  | .block span body => [.gap, .block span body, .gap]
  | body =>
      [.piece .newline, .piece .deeper, .statement false body, .piece .shallower, .piece .line]

def doStatement (grammar : Grammar) : Reader Statement := do
  let start := (← token).start
  advance
  let body ← grammar.statement true
  expectWord "while"
  let test ← grammar.condition
  discard (eat ";")
  return .form (← spanFrom start) false
    (.word "do" :: .piece (.within .loop) :: doParts body ++ .piece .without :: bareFunction body ++
      [.text "while", .gap, .text "(", .expr .lowest test, .text ")", .piece .ending])

def countingLoop (grammar : Grammar) (start : Nat) (isAsync : Bool) (init : List Part) :
    Reader Statement := do
  expect ";"
  let test : List Part ←
    if ← isAtAny [";", ")"] then pure []
    else pure [.gap, .expr .lowest (← grammar.expression)]
  expect ";"
  let update : List Part ←
    if ← isAt ")" then pure []
    else pure [.gap, .expr .lowest (← grammar.expression)]
  expect ")"
  if isAsync then
    complain "await can only be used in conjunction with `for...of` statements"
      (← spanFrom start)
  let body ← grammar.statement true
  return .form (← spanFrom start) false
    (.piece (.enters .block) :: .word "for" :: .gap :: .text "(" :: init ++ .text ";" :: test ++
      .text ";" :: update ++ .text ")" :: repeated body ++ [.piece .leaves])

def rangingLoop (grammar : Grammar) (start : Nat) (isAsync : Bool) (place : List Part) :
    Reader Statement := do
  let isObject ← isAtWord "in"
  advance
  let (word, range) : String × Part ←
    if isObject then pure ("in", .expr .lowest (← grammar.expression))
    else pure ("of", .expr .comma (← grammar.assignment))
  expect ")"
  if isAsync && isObject then
    complain "await can only be used in conjunction with `for...of` statements"
      (← spanFrom start)
  let body ← grammar.statement true
  return .form (← spanFrom start) false
    (.piece (.enters .block) :: .word (if isAsync then "for await" else "for") :: .gap ::
      .text "(" :: place ++ [.gap, .word word, .text " ", range, .text ")"] ++ repeated body ++
      [.piece .leaves])

def isAtRange : Reader Bool := return (← isAtWord "in") || (← isAtWord "of")

def rangeObjections (span : Span) (word : String) (slots : List Variable) : List Part :=
  let single := "Only a single declaration is allowed in a `for..." ++ word ++ "` statement"
  let bare := "for-" ++ word ++ " loop variable declaration may not have an initializer"
  (if 1 < slots.length then [.piece (.objection single span)] else []) ++
    (slots.filter fun slot => slot.init.isSome).map fun _ => .piece (.objection bare span)

def declaringLoop (grammar : Grammar) (start : Nat) (isAsync : Bool) (kind : VariableKind) :
    Reader Statement := do
  let slots ← joiningIn false (grammar.variableList fun _ => pure ())
  let parts := declarationParts kind slots
  if ← isAtRange then
    let word := if ← isAtWord "in" then "in" else "of"
    grammar.rangingLoop start isAsync (rangeObjections (← spanFrom start) word slots ++ parts)
  else
    for slot in slots do checkInit kind slot
    grammar.countingLoop start isAsync parts

def followsLet (kind : Kind) : Bool :=
  match kind with
  | .punctuator symbol => symbol == "\x7b" || symbol == "["
  | .keyword word => !reservedWords.contains word && word != "of"
  | .identifier _ => true
  | _ => false

def forStatement (grammar : Grammar) : Reader Statement := do
  let start := (← token).start
  advance
  let isAsync ← isAtWord "await"
  if isAsync then
    unless (← get).waits do
      complain "`await` is only allowed within async functions and at the top levels of modules"
        (← tokenSpan)
    advance
  expect "("
  if ← isAtAny [";", ")"] then return ← grammar.countingLoop start isAsync []
  match variableKind? (← kind) with
  | some kind =>
      if kind != .lexical || followsLet (← following) then
        return ← grammar.declaringLoop start isAsync kind
  | none => pure ()
  let value ← joiningIn false grammar.expression
  if ← isAtRange then
    match Covered.ofExpr false value with
    | .error _ => throw (.error "Unexpected token" value.span)
    | .ok covered => grammar.rangingLoop start isAsync covered.parts
  else grammar.countingLoop start isAsync [.expr .lowest value]

/-! Cases. -/

/-- The parts of the statements of a case. One alone stays on its line. -/
def caseBody : List Statement → List Part
  | [single] => [.statement true single]
  | body =>
      .piece .newline :: .piece .deeper :: body.map (Part.statement false) ++ [.piece .shallower]

def switchCase (grammar : Grammar) : Reader (List Part) := do
  let start := (← token).start
  let opening : List Part ←
    if ← eatWord "default" then pure [.text "default"]
    else if ← eatWord "case" then pure [.text "case ", .expr .lowest (← grammar.expression)]
    else unexpected
  expect ":"
  let body ← many do
    let ends := (← isAt "\x7d") || (← isAtWord "case") || (← isAtWord "default")
    if ends || (← kind) = .endOfFile then return none
    some <$> grammar.statement false
  return .piece (.link start.toUInt32) :: .piece .line :: opening ++ .text ":" :: caseBody body

def switchStatement (grammar : Grammar) : Reader Statement := do
  let start := (← token).start
  advance
  let value ← grammar.condition
  let bodyStart := (← token).start
  expect "\x7b"
  let cases ← many do
    if (← isAt "\x7d") || (← kind) = .endOfFile then return none
    some <$> grammar.switchCase
  expect "\x7d"
  let span ← spanFrom start
  let body := spanBetween bodyStart span.stop.toNat
  let shown : List Part :=
    if cases.isEmpty then
      [.piece (.link body.start), .text "\x7b", .piece (.link body.stop), .text "\x7d"]
    else .piece (.opening body) :: cases.flatten ++ [.piece (.closing body)]
  return .form span false
    (.word "switch" :: .gap :: .text "(" :: .expr .lowest value :: .text ")" :: .gap ::
      .piece (.enters .block) :: .piece (.within .choice) :: shown ++
      [.piece .without, .piece .leaves, .piece .newline])

/-! Jumps. -/

def jumpStatement (word : String) : Reader Statement := do
  let start := (← token).start
  advance
  let label ← if ← mayEnd then pure none else some <$> identifier
  endStatement
  let span ← spanFrom start
  let shown : List Part :=
    match label with
    | some name => [.text " ", .piece (.name name)]
    | none => []
  return .form span false
    (.word word :: shown ++ [.piece (.jump span (word = "continue") label), .piece .ending])

def throwStatement (grammar : Grammar) : Reader Statement := do
  let start := (← token).start
  advance
  if (← token).afterNewline then complain "Illegal newline after throw" (← spanFrom start)
  let value ← joiningIn true grammar.expression
  endStatement
  return .form (← spanFrom start) false
    [.word "throw", .gap, .expr .lowest value, .piece .ending]

def sharedBlock (span : Span) (body : List Statement) : List Part :=
  if body.isEmpty then
    [.piece (.link span.start), .text "\x7b", .piece (.link span.stop), .text "\x7d"]
  else .piece (.opening span) :: body.map (Part.statement false) ++ [.piece (.closing span)]

def caught (grammar : Grammar) : Reader (List Part) := do
  unless ← eat "(" do return []
  let start := (← token).start
  let found ← grammar.pattern
  let binding : Binding := if found.name?.isSome then .parameter else .lexical
  let place ← grammar.typedPlace start found []
  expect ")"
  return place.names.map (fun name => .piece (.declares binding name)) ++
    .gap :: .text "(" :: place.parts ++ [.text ")"]

def catchClause (grammar : Grammar) : Reader (List Part) := do
  unless ← eatWord "catch" do return []
  let place ← grammar.caught
  let (span, body) ← grammar.statements
  return .gap :: .text "catch" :: .piece (.enters .block) :: place ++ .gap ::
    sharedBlock span body ++ [.piece .leaves]

def tryStatement (grammar : Grammar) : Reader Statement := do
  let start := (← token).start
  let wordSpan ← tokenSpan
  advance
  let (span, body) ← grammar.statements
  let handler ← grammar.catchClause
  let finalizer : List Part ←
    if ← eatWord "finally" then
      let (span, body) ← grammar.statements
      pure [.gap, .text "finally", .gap, .block span body]
    else pure []
  if handler.isEmpty && finalizer.isEmpty then complain "Missing catch or finally clause" wordSpan
  return .form (← spanFrom start) false
    (.word "try" :: .gap :: .block span body :: handler ++ finalizer ++ [.piece .newline])

def withStatement (grammar : Grammar) : Reader Statement := do
  let start := (← token).start
  advance
  let object ← grammar.condition
  let body ← grammar.statement true
  let span ← spanFrom start
  return .form span false
    (.piece (.objection "'with' statements are not allowed" span) :: .word "with" :: .text "(" ::
      .expr .lowest object :: .text ")" :: .statement true body :: bareFunction body)

def debuggerStatement : Reader Statement := do
  let start := (← token).start
  advance
  endStatement
  return .form (← spanFrom start) false [.word "debugger", .piece .ending]

end JsxLowering.Source.Grammar
