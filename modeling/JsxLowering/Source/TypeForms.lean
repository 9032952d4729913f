import JsxLowering.Source.Functions

set_option autoImplicit false

/-!
The grammar of types.
-/

namespace JsxLowering.Source.Grammar

open Reader

def typeWords : List String :=
  ["any", "bigint", "boolean", "intrinsic", "never", "null", "number", "object", "string",
   "symbol", "undefined", "unknown", "void"]

/-! Functions. -/

/-- The pieces among parts. What belongs to no type is left out. -/
def piecesOf (parts : List Part) : List Piece :=
  parts.filterMap fun part =>
    match part with
    | .piece piece => some piece
    | .expr _ (.identifier span name _) => some (.name ⟨span, name⟩)
    | .expr _ (.number _ value) => some (.text (Literal.number value))
    | _ => none

def typeSignature (grammar : Grammar) : Reader (List Piece) := do
  return piecesOf (firmly (← grammar.parameters).parts)

def skipsParameter (grammar : Grammar) : Reader Bool := do
  if isIdentifier (← kind) || (← isAtWord "this") then
    advance
    return true
  if ← isAtAny ["[", "\x7b"] then return (← attempt grammar.pattern).isSome
  return false

def isAtParameters (grammar : Grammar) : Reader Bool := ahead do
  unless ← eat "(" do return false
  if ← isAtAny [")", "..."] then return true
  unless ← grammar.skipsParameter do return false
  if ← isAtAny [":", ",", "?", "="] then return true
  return (← eat ")") && (← isAt "=>")

def isAtFunctionType (grammar : Grammar) : Reader Bool := do
  if (← isAt "<") || (← isAtWord "new") then return true
  if ← isAtWord "abstract" then return (← following) = .keyword "new"
  grammar.isAtParameters

def functionType (grammar : Grammar) : Reader (List Piece) := do
  let abstracts := if ← eatWord "abstract" then [Piece.text "abstract "] else []
  let makes := if ← eatWord "new" then [Piece.text "new "] else []
  let taken ← grammar.typeSignature
  expect "=>"
  let returned ← grammar.returnType
  return abstracts ++ makes ++ taken ++ .gap :: .text "=>" :: .gap :: returned

/-! Objects. -/

def endMember : Reader Unit := do
  unless ← eat "," do endStatement

/-- Whether an index signature starts here: a name and its type in brackets. -/
def isAtIndexSignature : Reader Bool := ahead do
  discard (eatWord "readonly")
  unless ← eat "[" do return false
  unless isIdentifier (← kind) do return false
  advance
  isAt ":"

def indexSignature (grammar : Grammar) : Reader (List Piece) := do
  let fixed := if ← eatWord "readonly" then [Piece.text "readonly "] else []
  expect "["
  let name ← identifier
  let key ← grammar.annotation
  expect "]"
  let type ← grammar.annotation
  return fixed ++ .text "[" :: .text name.text :: key ++ .text "]" :: type

def memberKey (grammar : Grammar) : Reader (List Piece) := do
  let (key, computed) ← grammar.propertyName
  let optional := if ← eat "?" then [Piece.text "?"] else []
  return piecesOf (keyParts key computed) ++ optional

def memberType (grammar : Grammar) : Reader (List Piece) := do
  let next ← following
  let opens := next = .punctuator "(" || next = .punctuator "<"
  if ← isAtAny ["(", "<"] then return (← grammar.typeSignature) ++ (← grammar.returned)
  if (← isAtWord "new") && opens then
    advance
    return .text "new " :: (← grammar.typeSignature) ++ (← grammar.returned)
  if ← isAtIndexSignature then return ← grammar.indexSignature
  let named := startsName next
  let word : List Piece ←
    match ← kind with
    | .keyword word =>
        if ["get", "set", "readonly"].contains word && named then
          advance
          pure [.text word, .text " "]
        else pure []
    | _ => pure []
  let key ← grammar.memberKey
  if ← isAtAny ["(", "<"] then
    return word ++ key ++ (← grammar.typeSignature) ++ (← grammar.returned)
  return word ++ key ++ (← grammar.annotation)

def objectType (grammar : Grammar) : Reader (List Piece) := do
  let start := (← token).start
  expect "\x7b"
  let members ← many do
    if (← isAt "\x7d") || (← kind) = .endOfFile then return none
    let memberStart := (← token).start
    let member ← grammar.memberType
    endMember
    return some (.entry memberStart.toUInt32 :: member ++ [.text ";", .newline])
  expect "\x7d"
  let span ← spanFrom start
  if members.isEmpty then return [.text "\x7b\x7d"]
  return .opening span :: members.flatten ++ [.closing span]

def signedMark (read : Reader Bool) (text : String) : Reader (List Piece) := do
  let sign ←
    if ← eat "+" then pure "+"
    else if ← eat "-" then pure "-"
    else pure ""
  if ← read then return [.text (sign ++ text)]
  unless sign.isEmpty do unexpected
  return []

def isAtMappedType : Reader Bool := ahead do
  unless ← eat "\x7b" do return false
  if ← isAtAny ["+", "-"] then return true
  discard (eatWord "readonly")
  unless ← eat "[" do return false
  unless isIdentifier (← kind) do return false
  advance
  isAtWord "in"

def mappedType (grammar : Grammar) : Reader (List Piece) := do
  expect "\x7b"
  let fixed ← signedMark (eatWord "readonly") "readonly "
  expect "["
  let name ← bindingName
  expectWord "in"
  let range ← grammar.type
  let renamed : List Piece ←
    if ← eatWord "as" then
      let type ← grammar.type
      pure (.text " as " :: type)
    else pure []
  expect "]"
  let optional ← signedMark (eat "?") "?"
  let type ← grammar.annotation
  discard (eat ";")
  expect "\x7d"
  return .text "\x7b" :: .gap :: fixed ++ .text "[" :: .binding name :: .text " in " :: range ++
    renamed ++ .text "]" :: optional ++ type ++ [.gap, .text "\x7d"]

/-! Types without operators. -/

def numberText (span : Span) : Numeral → Reader String
  | .whole value => return Literal.number value
  | .fraction value => return Literal.fraction value
  | .big text => return text
  | .unreadable => throw (.error "Invalid Number invalid float" span)

def queryType (grammar : Grammar) : Reader (List Piece) := do
  advance
  let named ← grammar.namedType
  return .word "typeof" :: .text " " :: named

def tupleMember (grammar : Grammar) : Reader (List Piece) := do
  let rest := if ← eat "..." then [Piece.text "..."] else []
  let label ← attempt do
    let name ← anyWord
    let optional := if ← eat "?" then "?" else ""
    expect ":"
    return [.property name, .text (optional ++ ":"), .gap]
  let type ← grammar.type
  let optional := if label.isNone && (← eat "?") then [Piece.text "?"] else []
  return rest ++ label.getD [] ++ type ++ optional

def tupleType (grammar : Grammar) : Reader (List Piece) := do
  advance
  let members ← delimited "]" true grammar.tupleMember
  expect "]"
  return .text "[" :: joinTypes members ++ [.text "]"]

def templateType (grammar : Grammar) : Reader (List Piece) := do
  let step (pieces : List Piece) : Reader (List Piece ⊕ List Piece) := do
    match templateText? pieces.isEmpty (← kind) with
    | some (text, closed) =>
        advance
        let pieces := pieces ++ [.text text]
        return if closed then .inr pieces else .inl pieces
    | none =>
        let type ← grammar.type
        resumeTemplate
        return .inl (pieces ++ .text "$\x7b" :: type ++ [.text "\x7d"])
  let pieces ← iterate step []
  return .text "\x60" :: pieces ++ [.text "\x60"]

def assertion (grammar : Grammar) : Reader (List Piece) := do
  advance
  let name ← anyWord
  let type : List Piece ←
    if ← eatWord "is" then
      let type ← grammar.type
      pure (.text " is " :: type)
    else pure []
  return .text "asserts " :: .property name :: type

def wordType (grammar : Grammar) (word : String) : Reader (List Piece) := do
  let span ← tokenSpan
  let next ← ahead do
    advance
    token
  if word = "this" || word = "true" || word = "false" then
    advance
    if word = "this" then peek
    return [.link span.start, .word word]
  else if typeWords.contains word && next.kind != .punctuator "." then
    advance
    return [.word word]
  else if word = "asserts" && next.kind.word?.isSome && !next.afterNewline then
    grammar.assertion
  else grammar.namedType

def plainType (grammar : Grammar) : Reader (List Piece) := do
  let span ← tokenSpan
  match ← kind with
  | .string value _ =>
      advance
      return [.string span value]
  | .number _ value =>
      let text ← numberText span value
      advance
      return [.link span.start, .text text]
  | .template .. => return .link span.start :: (← grammar.templateType)
  | .punctuator "-" =>
      advance
      match ← kind with
      | .number _ value =>
          let text ← numberText span value
          advance
          return [.text "-", .text text]
      | _ => unexpected
  | .punctuator "(" =>
      advance
      let inner ← grammar.type
      expect ")"
      return .text "(" :: inner ++ [.text ")"]
  | .punctuator "[" => grammar.tupleType
  | .punctuator "\x7b" =>
      if ← isAtMappedType then grammar.mappedType else grammar.objectType
  | .keyword "typeof" => grammar.queryType
  | .keyword word => grammar.wordType word
  | _ => grammar.namedType

/-! Types made of others. -/

def postfixType (grammar : Grammar) : Reader (List Piece) := do
  let first ← grammar.plainType
  iterate (fun (pieces : List Piece) => do
    if (← isAt "[") && !(← token).afterNewline then
      advance
      if ← eat "]" then return .inl (pieces ++ [.text "[]"])
      let key ← grammar.type
      expect "]"
      return .inl (pieces ++ .text "[" :: key ++ [.text "]"])
    else return .inr pieces) first

def typeOperators : List String := ["infer", "keyof", "readonly", "unique"]

def singleType (grammar : Grammar) : Reader (List Piece) := do
  let words ← many do
    match ← kind with
    | .keyword word =>
        if typeOperators.contains word && !(← following) matches .punctuator _ then
          advance
          return some word
        else return none
    | _ => return none
  return words.flatMap (fun word => [.text word, .text " "]) ++ (← grammar.postfixType)

def unionType (grammar : Grammar) : Reader (List Piece) := do
  discard (eat "|")
  let first ← grammar.singleType
  iterate (fun (pieces : List Piece) => do
    match ← kind with
    | .punctuator "|" =>
        advance
        return .inl (pieces ++ .gap :: .text "|" :: .gap :: (← grammar.singleType))
    | .punctuator "&" =>
        advance
        return .inl (pieces ++ .gap :: .text "&" :: .gap :: (← grammar.singleType))
    | _ => return .inr pieces) first

/-- Reads a type. It may depend on whether another type has a bound. -/
def readType (grammar : Grammar) : Reader (List Piece) := do
  if ← grammar.isAtFunctionType then return ← grammar.functionType
  let type ← grammar.unionType
  unless (← isAtWord "extends") && !(← token).afterNewline do return type
  advance
  let bound ← grammar.unionType
  expect "?"
  let yes ← grammar.type
  expect ":"
  let no ← grammar.type
  return type ++ .text " extends " :: bound ++ .text " ? " :: yes ++ .text " : " :: no

end JsxLowering.Source.Grammar
