import JsxLowering.Source.Patterns

set_option autoImplicit false

/-!
The grammar of functions: what they take, what they evaluate, and how to tell that an arrow
function starts.

A function with plain names for parameters is a node of its own; any other is kept as its
parts.
-/

namespace JsxLowering.Source.Grammar

open Reader

/-! Parameters. -/

/-- What a function takes: the parts it is printed from, the names, and if these are all that
there is to it, again the names. -/
structure Signature where
  parts : List Part
  names : List Name
  plain? : Option (List Name)
  /-- How many parameters there are, and whether the last takes what is left over. -/
  count : Nat
  takesRest : Bool
  simple : Bool

namespace Signature

def ofName (name : Name) : Signature :=
  ⟨[.piece (.soft "("), .piece (.binding name), .piece (.soft ")")], [name], some [name], 1,
    false, true⟩

def declarations (signature : Signature) : List Part :=
  signature.names.map fun name => .piece (.declares .parameter name)

end Signature

def thisParameter (grammar : Grammar) : Reader (List Part) := do
  unless (← get).typed && (← isAtWord "this") do return []
  advance
  let type ← grammar.annotation
  unless ← isAt ")" do expect ","
  return .word "this" :: type.map Part.piece

def memberMarks : List String := ["override", "private", "protected", "public", "readonly"]

def parameter (grammar : Grammar) : Reader Pattern := do
  let words ← many do
    match ← kind with
    | .keyword word =>
        let next ← following
        let named := isIdentifier next || next = .punctuator "[" || next = .punctuator "\x7b"
        if (← get).typed && memberMarks.contains word && named then
          advance
          return some word
        else return none
    | _ => return none
  let place ← grammar.place
  if words.isEmpty then return place
  return { place with
    parts := words.flatMap (fun word => [.text word, .text " "]) ++ place.parts
    name? := none }

def isSimplePlace (place : Pattern) : Bool :=
  place.parts.all fun part =>
    match part with
    | .piece (.link _) => false
    | .piece _ => true
    | _ => false

def plainNames? : List (Option Pattern) → Option (List Name)
  | [] => some []
  | some place :: rest =>
      match place.name?, plainNames? rest with
      | some name, some names => some (name :: names)
      | _, _ => none
  | none :: _ => none

/-- The parentheses around a single parameter, which no function but an arrow function can do
without. -/
def firmly : List Part → List Part :=
  List.map fun part =>
    match part with
    | .piece (.soft text) => .piece (.text text)
    | part => part

def parameters (grammar : Grammar) : Reader Signature := do
  let typeParameters ← grammar.typeParameters
  expect "("
  let this ← grammar.thisParameter
  let (found, rest) ← grammar.places ")" "A rest parameter must be last in a parameter list"
    (some <$> grammar.parameter)
  expect ")"
  let members := (found ++ [rest]).filterMap fun place => place.map Pattern.parts
  let shown := Part.separated (if this.isEmpty then members else this :: members)
  let plain := typeParameters.isEmpty && this.isEmpty && rest.isNone
  let plain? := if plain then plainNames? found else none
  let (opening, closing) : Piece × Piece :=
    match plain? with
    | some [_] => (.soft "(", .soft ")")
    | _ => (.text "(", .text ")")
  return {
    parts := typeParameters.map Part.piece ++ .piece opening :: shown ++ [.piece closing]
    names := namesOf found rest
    plain?
    count := found.length
    takesRest := rest.isSome
    simple := rest.isNone && found.all fun place => place.any isSimplePlace }

def signature (grammar : Grammar) : Reader Signature := do
  let taken ← grammar.parameters
  let returned ← grammar.returned
  if returned.isEmpty then return taken
  return { taken with parts := firmly taken.parts ++ returned.map Part.piece, plain? := none }

/-! Bodies. -/

def functionBody (grammar : Grammar) : Reader (Span × List Statement) := do
  let start := (← token).start
  let outside := (← get).inFunction
  expect "\x7b"
  modify fun cursor => { cursor with inFunction := true }
  let body ← joiningIn true grammar.body
  modify fun cursor => { cursor with inFunction := outside }
  expect "\x7d"
  return (← spanFrom start, body)

/-- The objections to the directives of a function, which fit only names as parameters. -/
def strictObjections (signature : Signature) : FunctionBody → List Part
  | .expr _ => []
  | .block _ statements =>
      if signature.simple then []
      else
        statements.filterMap fun statement =>
          match statement with
          | .directive span "use strict" => some (.piece (.objection
              "Illegal 'use strict' directive in function with non-simple parameter list" span))
          | _ => none

def callable (signature : Signature) (body : FunctionBody) : List Part :=
  .piece (.enters .function) :: .piece (.within .function) :: signature.declarations ++
    signature.parts ++ strictObjections signature body ++
    [.gap, .body body, .piece .without, .piece .leaves]

/-- Reads what comes after the name of a function or method. Where types may be used the body may
be missing. -/
def callableRest (grammar : Grammar) (isAsync isGenerator : Bool) :
    Reader (Signature × Option (Span × List Statement)) :=
  inside isAsync isGenerator do
    let signature ← joiningIn true grammar.signature
    if ← isAt "\x7b" then return (signature, some (← grammar.functionBody))
    unless (← get).typed do unexpected
    return (signature, none)

def functionRest (grammar : Grammar) (isAsync isGenerator : Bool) :
    Reader (Signature × Option (Span × List Statement)) :=
  enclosed (fun around => { around with inMethod := false, inCallable := true })
    (grammar.callableRest isAsync isGenerator)

def functionParts (signature : Signature) : Option (Span × List Statement) → List Part
  | some (span, body) => firmly (callable signature (.block span body))
  | none => firmly signature.parts ++ [.text ";"]

def isAtFunction : Reader Bool := do
  if ← isAtWord "function" then return true
  unless ← isAtWord "async" do return false
  ahead do
    advance
    return (← isAtWord "function") && !(← token).afterNewline

/-- Reads the words that a function starts with: whether it waits, and whether it yields. -/
def functionWords : Reader (Bool × Bool) := do
  let isAsync ← eatWord "async"
  expectWord "function"
  return (isAsync, ← eat "*")

def functionText (isAsync isGenerator : Bool) : String :=
  (if isAsync then "async function" else "function") ++ (if isGenerator then "*" else "")

def nameParts (isGenerator : Bool) (name : Option Name) : List Part :=
  (if isGenerator then [.gap] else []) ++
    (match name with
      | some name => [.piece (.binding name)]
      | none => [])

def functionExpression (grammar : Grammar) : Reader Expr := do
  let start := (← token).start
  let (isAsync, isGenerator) ← functionWords
  let name ← inside isAsync isGenerator do
    if isIdentifier (← kind) then some <$> identifier else pure none
  let (signature, body) ← grammar.functionRest isAsync isGenerator
  let span ← spanFrom start
  let word := Part.piece (.property ⟨span, functionText isAsync isGenerator⟩)
  return .form span .atomic true
    (word :: nameParts isGenerator name ++ functionParts signature body)

/-- Reads the name of a function that is declared. A function without one is complained about. -/
def functionName : Reader Name := do
  let kind ← kind
  let span ← tokenSpan
  if isIdentifier kind then identifier
  else if kind = .punctuator "(" then
    complain "Expected function name" span
    return ⟨span, ""⟩
  else if kind.word?.isSome then expected "Identifier"
  else return ⟨span, ""⟩

def function (grammar : Grammar) (single : Bool) : Reader Statement := do
  let start := (← token).start
  let (isAsync, isGenerator) ← functionWords
  let name ← functionName
  let (signature, body) ← grammar.functionRest isAsync isGenerator
  if body.isNone then endStatement
  let span ← spanFrom start
  if single && isAsync then
    complain "Async functions can only be declared at the top level or inside a block" span
  if single && isGenerator then
    complain "Generators can only be declared at the top level or inside a block" span
  match signature.plain?, body, isAsync || isGenerator with
  | some parameters, some (bodySpan, statements), false =>
      return .function span name parameters bodySpan statements
  | _, _, _ =>
      return .form span true
        (.piece (.declares .function name) :: .word (functionText isAsync isGenerator) ::
          nameParts isGenerator (some name) ++ functionParts signature body ++
          [.piece .newline])

/-! Arrow functions. -/

def arrow : Reader Unit := do
  if (← token).afterNewline then
    complain "Line terminator not permitted before arrow" (← tokenSpan)
  expect "=>"

def arrowHead (grammar : Grammar) : Reader (Bool × Signature) := do
  let isAsync ← eatWord "async"
  let cursor ← get
  let signature ← inside (cursor.waits || isAsync) cursor.yields grammar.signature
  arrow
  return (isAsync, signature)

inductive Guess where
  | yes
  | no
  | maybe
  deriving DecidableEq

def modifiers : List String :=
  ["abstract", "accessor", "const", "declare", "export", "in", "out", "override", "private",
   "protected", "public", "readonly", "static"]

def guessAfterParenthesis : Reader Guess := do
  if ← eat ")" then
    let ends := if (← get).typed then ["=>", "\x7b", ":"] else ["=>", "\x7b"]
    return if ← isAtAny ends then .yes else .no
  if ← isAtAny ["[", "\x7b"] then return .maybe
  if ← eat "..." then
    match ← kind with
    | .identifier _ => return .yes
    | .number .. => return .no
    | .string .. => return .no
    | .keyword word =>
        return if ["null", "true", "false"].contains word then .no else .maybe
    | _ => return .maybe
  let first ← kind
  advance
  if (first.word?.any modifiers.contains) && isIdentifier (← kind) then
    return if ← isAtWord "as" then .no else .yes
  unless isIdentifier first || first = .keyword "this" do return .no
  if ← isAt ":" then return .yes
  if ← eat "?" then
    return if ← isAtAny [":", ",", "=", ")"] then .yes else .no
  return if ← isAtAny [",", "=", ")"] then .maybe else .no

/-- Whether an arrow function starts after an angle bracket, where markup may start as well. -/
def guessAfterAngle : Reader Guess := do
  unless isIdentifier (← kind) || (← isAtWord "const") do return .no
  advance
  if ← isAtWord "extends" then
    advance
    return if ← isAtAny ["=", ">", "/"] then .no else .yes
  return if ← isAtAny [",", "="] then .yes else .no

def guessArrow : Reader Guess := ahead do
  if ← eatWord "async" then
    if (← token).afterNewline || !(← isAtAny ["(", "<"]) then return .no
  if ← eat "(" then guessAfterParenthesis
  else if ← eat "<" then guessAfterAngle
  else return .no

def isAtAsyncName : Reader Bool := do
  unless ← isAtWord "async" do return false
  ahead do
    advance
    if (← token).afterNewline || !isIdentifier (← kind) then return false
    advance
    isAt "=>"

def arrowBody (grammar : Grammar) (isAsync : Bool) : Reader FunctionBody :=
  inside isAsync false do
    if ← isAt "\x7b" then
      let (span, statements) ← grammar.functionBody
      return .block span statements
    else return .expr (← grammar.assignment)

def arrowRest (grammar : Grammar) (start : Nat) (isAsync : Bool) (signature : Signature) :
    Reader Expr := do
  let body ← grammar.arrowBody isAsync
  let span ← spanFrom start
  match signature.plain?, isAsync with
  | some parameters, false => return .arrow span parameters body
  | _, _ =>
      let opening : List Part :=
        if isAsync then [.piece (.property ⟨span, "async"⟩), .gap]
        else [.piece (.link span.start)]
      return .form span .assign false
        (.piece (.enters .arrow) :: signature.declarations ++ opening ++ signature.parts ++
          strictObjections signature body ++ [.gap, .text "=>", .gap, .body body, .piece .leaves])

/-- Reads what an arrow function takes that may start here. Where none does is remembered. -/
def tryArrowHead (grammar : Grammar) : Reader (Option (Bool × Signature)) := do
  let start := (← token).start
  if (← get).noArrows.contains start then return none
  let head ← attempt grammar.arrowHead
  if head.isNone then modify fun cursor => { cursor with noArrows := start :: cursor.noArrows }
  return head

/-- Reads an arrow function that starts with a parenthesis or with the word for waiting, if one
does. -/
def arrowFunction? (grammar : Grammar) : Reader (Option Expr) := do
  let start := (← token).start
  if ← isAtAsyncName then
    advance
    let name ← inside true (← get).yields identifier
    arrow
    return some (← grammar.arrowRest start true (.ofName name))
  let head ←
    match ← guessArrow with
    | .yes => some <$> grammar.arrowHead
    | .no => pure none
    | .maybe => grammar.tryArrowHead
  match head with
  | some (isAsync, signature) => return some (← grammar.arrowRest start isAsync signature)
  | none => return none

end JsxLowering.Source.Grammar
