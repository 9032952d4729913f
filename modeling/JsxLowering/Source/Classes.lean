import JsxLowering.Source.TypeForms

set_option autoImplicit false

/-!
The grammar of methods and classes. They are kept as their parts.
-/

namespace JsxLowering.Source.Grammar

open Reader

/-! Methods. -/

/-- Whether the name of a member comes after this token, maybe only on its line, maybe after a
star. -/
def nameFollows (sameLine star : Bool) : Reader Bool := ahead do
  advance
  let token ← token
  return (startsName token.kind || (star && token.kind = .punctuator "*")) &&
    !(sameLine && token.afterNewline)

structure MethodWords where
  isAsync : Bool
  isGenerator : Bool
  accessor : Option String

namespace MethodWords

def isEmpty (words : MethodWords) : Bool :=
  !words.isAsync && !words.isGenerator && words.accessor.isNone

def parts (words : MethodWords) : List Part :=
  (match words.accessor with
    | some word => [.word word, .gap]
    | none => []) ++
    (if words.isAsync then [.word "async", .gap] else []) ++
    (if words.isGenerator then [.text "*"] else [])

end MethodWords

def methodWords : Reader MethodWords := do
  match ← kind with
  | .keyword word =>
      if (word = "get" || word = "set") && (← nameFollows false false) then
        advance
        return ⟨false, false, some word⟩
      else if word = "async" && (← nameFollows true true) then
        advance
        return ⟨true, ← eat "*", none⟩
      else return ⟨false, false, none⟩
  | .punctuator "*" =>
      advance
      return ⟨false, true, none⟩
  | _ => return ⟨false, false, none⟩

def accessorComplaint? (accessor : Option String) (signature : Signature) : Option String :=
  match accessor with
  | some "get" =>
      if signature.count = 0 then none
      else some "A 'get' accessor must not have any formal parameters."
  | some _ =>
      if signature.takesRest then some "A 'set' accessor cannot have rest parameter."
      else if signature.count = 1 then none
      else some "A 'set' accessor must have exactly one parameter."
  | none => none

def method (grammar : Grammar) (words : MethodWords) : Reader (List Part) := do
  let start := (← token).start
  let (signature, body) ←
    enclosed (fun around => { around with inMethod := true, inCallable := true })
      (grammar.callableRest words.isAsync words.isGenerator)
  match accessorComplaint? words.accessor signature with
  | some complaint => complain complaint (← spanFrom start)
  | none => pure ()
  return functionParts signature body

/-! Decorators. -/

def isPlainDecorator : Expr → Bool
  | .identifier .. => true
  | .member .. => true
  | .call _ callee _ => isPlainDecorator callee
  | _ => false

def decoratorParts (start : Nat) (value : Expr) : List Part :=
  let shown : List Part :=
    if isPlainDecorator value.bare then [.expr .lowest value]
    else [.text "(", .expr .lowest value, .text ")"]
  .piece (.link start.toUInt32) :: .text "@" :: shown ++ [.text " "]

def decorators (grammar : Grammar) : Reader Unit := do
  if ← isAt "@" then
    let found ← many do
      let start := (← token).start
      unless ← eat "@" do return none
      return some (decoratorParts start (← decorating true grammar.operand))
    modify fun cursor => { cursor with decorators := found.flatten }

def takeDecorators : Reader (List Part) := do
  let found := (← get).decorators
  modify fun cursor => { cursor with decorators := [] }
  return found

/-! Classes. -/

def memberName (grammar : Grammar) : Reader (List Part) := do
  match ← kind with
  | .hidden name =>
      let span ← tokenSpan
      advance
      return [.piece (.property ⟨span, "#" ++ name⟩)]
  | _ =>
      let (key, computed) ← grammar.propertyName
      return keyParts key computed

def statements (grammar : Grammar) : Reader (Span × List Statement) := do
  let start := (← token).start
  expect "\x7b"
  let found ← many do
    if (← isAt "\x7d") || (← kind) = .endOfFile then return none
    some <$> grammar.statement false
  expect "\x7d"
  return (← spanFrom start, found)

def staticBlock (grammar : Grammar) (start : Nat) : Reader (List Part) := do
  let (span, body) ←
    enclosed (fun around => { around with inMethod := true, inCallable := true })
      (inside false false grammar.statements)
  return [.piece (.entry start.toUInt32), .word "static", .gap, .piece (.enters .function),
    .piece (.within .function), .block span body, .piece .without, .piece .leaves,
    .piece .newline]

/-- The words that may stand before the name of a member, in the order in which they are printed. -/
def memberWords : List String :=
  ["declare", "public", "private", "protected", "abstract", "static", "override", "readonly"]

def memberWordParts : Reader (List Part) := do
  let found ← many do
    match ← kind with
    | .keyword word =>
        let fits := word = "static" || ((← get).typed && memberWords.contains word)
        if fits && (← nameFollows false true) then
          advance
          return some word
        else return none
    | _ => return none
  return (memberWords.filter found.contains).flatMap fun word => [.word word, .gap]

def classMember (grammar : Grammar) : Reader (List Part) := do
  let start := (← token).start
  grammar.decorators
  let decorators ← takeDecorators
  if (← isAtWord "static") && (← following) = .punctuator "\x7b" then
    advance
    return ← grammar.staticBlock start
  if (← get).typed && (← isAtIndexSignature) then
    let signature ← grammar.indexSignature
    endStatement
    return .piece (.entry start.toUInt32) :: signature.map Part.piece ++ [.piece .ending]
  let modifiers ← memberWordParts
  let words ← methodWords
  let name ← grammar.memberName
  let optional : List Part := if (← get).typed && (← eat "?") then [.text "?"] else []
  let opening := .piece (.entry start.toUInt32) :: .piece (.link start.toUInt32) :: decorators ++
    modifiers ++ words.parts ++ name ++ optional
  if (← isAtAny ["(", "<"]) || words.isAsync || words.isGenerator then
    let rest ← grammar.method words
    discard (eat ";")
    return opening ++ rest ++ [.piece .newline]
  unless words.isEmpty do unexpected
  let mark : List Piece := if (← get).typed && (← eat "!") then [.text "!"] else []
  let type ← grammar.annotation
  let value : List Part ←
    if ← eat "=" then
      let value ← enclosed (fun around => { around with inMethod := true })
        (inside false false (joiningIn true grammar.assignment))
      pure [.gap, .text "=", .gap, .expr .comma value]
    else pure []
  endStatement
  return opening ++ (mark ++ type).map Part.piece ++ value ++ [.piece .ending]

def classBody (grammar : Grammar) : Reader (List Part) := do
  let start := (← token).start
  expect "\x7b"
  let members ← enclosed (fun around => { around with inClass := true }) (many do
    discard (many do if ← eat ";" then return some () else return none)
    if (← isAt "\x7d") || (← kind) = .endOfFile then return none
    some <$> grammar.classMember)
  expect "\x7d"
  let span ← spanFrom start
  if members.isEmpty then
    return [.piece (.link span.start), .text "\x7b", .piece (.link span.stop), .text "\x7d"]
  return .piece (.opening span) :: members.flatten ++ [.piece (.closing span)]

def heritage (grammar : Grammar) : Reader (List Part) := do
  unless ← eatWord "extends" do return []
  let parent ← grammar.operand
  let types ← if (← get).typed && (← isAt "<") then grammar.typeArguments else pure []
  return .text " extends " :: .expr .postfixed parent :: types.map Part.piece

def implemented (grammar : Grammar) : Reader (List Part) := do
  unless (← get).typed && (← eatWord "implements") do return []
  let types ← delimited "\x7b" false grammar.namedType
  return .text " implements " :: (joinTypes types).map Part.piece

/-- Reads a class after its word: its name if it has one, and the other parts. -/
def classRest (grammar : Grammar) : Reader (Option Name × List Part) := do
  let name ←
    if isIdentifier (← kind) && !(← isAtWord "implements") then some <$> identifier
    else pure none
  let types ← grammar.typeParameters
  let parent ← grammar.heritage
  let kinds ← grammar.implemented
  let body ← grammar.classBody
  let shown : List Part :=
    match name with
    | some name => [.text " ", .piece (.binding name)]
    | none => []
  return (name, shown ++ types.map Part.piece ++ parent ++ kinds ++ .gap :: body)

def classExpression (grammar : Grammar) : Reader Expr := do
  let start := (← token).start
  advance
  let decorators ← takeDecorators
  let (_, parts) ← grammar.classRest
  let span ← spanFrom start
  return .form span .atomic true (decorators ++ .piece (.property ⟨span, "class"⟩) :: parts)

def classStatement (grammar : Grammar) (single : Bool) : Reader Statement := do
  let start := (← token).start
  advance
  let decorators ← takeDecorators
  let (name, parts) ← grammar.classRest
  let span ← spanFrom start
  if single then complain "Invalid class declaration" span
  let declares : List Part :=
    match name with
    | some name => [.piece (.declares .lexical name)]
    | none => [.piece (.objection "A class name is required." span)]
  return .form span true (declares ++ decorators ++ .word "class" :: parts ++ [.piece .newline])

end JsxLowering.Source.Grammar
