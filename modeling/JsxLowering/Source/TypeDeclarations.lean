import JsxLowering.Source.Declarations

set_option autoImplicit false

/-!
The grammar of declarations that only speak of types: names for types, descriptions of objects,
lists of constants, spaces of names, and what is declared to be made elsewhere.
-/

namespace JsxLowering.Source.Grammar

open Reader

def typeAlias (grammar : Grammar) : Reader (List Part) := do
  advance
  let name ← bindingName
  let parameters ← grammar.typeParameters
  expect "="
  let type ← grammar.type
  endStatement
  return .word "type" :: .piece (.binding name) ::
    (parameters ++ .gap :: .text "=" :: .gap :: type).map Part.piece ++ [.piece .ending]

def interfaceParts (grammar : Grammar) : Reader (List Part) := do
  advance
  let name ← bindingName
  let parameters ← grammar.typeParameters
  let parents : List Piece ←
    if ← eatWord "extends" then
      let types ← delimited "\x7b" false grammar.namedType
      pure (.text " extends " :: joinTypes types)
    else pure []
  let body ← grammar.objectType
  return .word "interface" :: .piece (.binding name) ::
    (parameters ++ parents ++ .gap :: body).map Part.piece ++ [.piece .newline]

def enumMember (grammar : Grammar) : Reader (List Part) := do
  let (key, computed) ← grammar.propertyName
  let value : List Part ←
    if ← eat "=" then
      let value ← grammar.assignment
      pure [.gap, .text "=", .gap, .expr .lowest value]
    else pure []
  return .piece .line :: keyParts key computed ++ value ++ [.text ",", .piece .newline]

def enumParts (grammar : Grammar) : Reader (List Part) := do
  let start := (← token).start
  let fixed : List Part := if ← eatWord "const" then [.word "const", .text " "] else []
  expectWord "enum"
  let name ← bindingName
  expect "\x7b"
  let members ← delimited "\x7d" true grammar.enumMember
  expect "\x7d"
  let span ← spanFrom start
  let body : List Part :=
    if members.isEmpty then
      [.piece (.link span.start), .text "\x7b", .piece (.link span.stop), .text "\x7d"]
    else .piece (.opening span) :: members.flatten ++ [.piece (.closing span)]
  return .piece (.declares .lexical name) :: fixed ++
    .word "enum" :: .piece (.binding name) :: .text " " :: body ++ [.piece .newline]

def namespaceParts (grammar : Grammar) (word : String) : Reader (List Part) := do
  advance
  let name : List Part ←
    match ← kind with
    | .string value _ =>
        let span ← tokenSpan
        advance
        pure [.piece (.string span value)]
    | _ => pure ((← qualifiedName (← bindingName)).map Part.piece)
  let (span, body) ← grammar.statements
  return .word word :: .text " " :: name ++
    [.gap, .piece (.enters .block), .block span body, .piece .leaves, .piece .newline]

def startsTypeDeclaration (word : String) (next : Token) : Bool :=
  match word with
  | "type" => isIdentifier next.kind && !next.afterNewline
  | "interface" => isIdentifier next.kind && !next.afterNewline
  | "namespace" => isIdentifier next.kind && !next.afterNewline
  | "module" => (isIdentifier next.kind || next.kind matches .string ..) && !next.afterNewline
  | "enum" => true
  | "const" => next.kind = .keyword "enum"
  | "abstract" => next.kind = .keyword "class" && !next.afterNewline
  | "declare" =>
      !next.afterNewline && next.kind.word?.any fun word =>
        ["abstract", "async", "class", "const", "enum", "function", "interface", "let", "module",
          "namespace", "type", "var"].contains word
  | _ => false

def isAtTypeDeclaration : Reader Bool := do
  unless (← get).typed do return false
  let next ← ahead do
    advance
    token
  return (← kind).word?.any fun word => startsTypeDeclaration word next

def abstractClass (grammar : Grammar) : Reader (List Part) := do
  advance
  expectWord "class"
  let decorators ← takeDecorators
  let (name, parts) ← grammar.classRest
  return name.toList.map (fun name => .piece (.declares .lexical name)) ++ decorators ++
    .word "abstract" :: .word "class" :: parts ++ [.piece .newline]

/-- Reads a declaration that only speaks of types. -/
def typeParts (grammar : Grammar) : Reader (List Part) := do
  match (← kind).word? with
  | some "type" => grammar.typeAlias
  | some "interface" => grammar.interfaceParts
  | some "enum" => grammar.enumParts
  | some "const" => grammar.enumParts
  | some "abstract" => grammar.abstractClass
  | some word => grammar.namespaceParts word
  | none => unexpected

/-- Reads a class or a function that is declared to be made elsewhere. -/
def ambientParts (grammar : Grammar) : Reader (List Part) := do
  if ← isAtFunction then
    let (isAsync, isGenerator) ← functionWords
    let name ← functionName
    let (signature, body) ← grammar.functionRest isAsync isGenerator
    if body.isNone then endStatement
    return .word (functionText isAsync isGenerator) :: nameParts isGenerator (some name) ++
      functionParts signature body ++ [.piece .newline]
  if ← isAtWord "class" then
    advance
    let (_, parts) ← grammar.classRest
    return .word "class" :: parts ++ [.piece .newline]
  grammar.typeParts

def ambient (grammar : Grammar) : Reader (List Part) := do
  advance
  let parts ←
    match variableKind? (← kind) with
    | some kind =>
        if (← following) = .keyword "enum" then grammar.enumParts
        else
          let slots ← grammar.variableList fun _ => pure ()
          endStatement
          pure (declarationParts kind slots ++ [.piece .ending])
    | none => grammar.ambientParts
  return .word "declare" :: .text " " :: parts

/-- Reads a declaration that only speaks of types as a statement. -/
def typeDeclaration (grammar : Grammar) : Reader Statement := do
  let start := (← token).start
  let parts ← if ← isAtWord "declare" then grammar.ambient else grammar.typeParts
  return .form (← spanFrom start) true parts

end JsxLowering.Source.Grammar
