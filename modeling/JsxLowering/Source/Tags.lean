import JsxLowering.Source.Types
import JsxLowering.Text.Uppercase

set_option autoImplicit false

/-!
The grammar of markup: tags with their attributes, and what stands between them.
-/

namespace JsxLowering.Source.Grammar

open Reader

def extendWord : Reader Unit := modify fun cursor =>
  match cursor.token.kind.word?, cursor.lexer.rest with
  | some word, '-' :: _ =>
      let goesOn (c : Char) : Bool := Text.isNamePart c || c == '-'
      let lexer := cursor.lexer.skipWhile goesOn
      let more := String.ofList (cursor.lexer.rest.takeWhile goesOn)
      { cursor with
        lexer
        token :=
          { cursor.token with
            kind := .identifier (word ++ more)
            stop := lexer.offset
            escaped := false } }
  | _, _ => cursor

def markupWord : Reader Name := do
  unless (← kind).word?.isSome do unexpected
  let escaped := (← token).escaped
  extendWord
  let span ← tokenSpan
  let word := ((← kind).word?).getD ""
  advance
  return ⟨span, ← if escaped then sourceText span else pure word⟩

/-- Whether a plain tag names a binding: it starts with an upper case letter, an underscore
or a dollar sign. -/
def namesBinding (name : String) : Bool :=
  match name.toList with
  | [] => false
  | first :: _ =>
      if Text.isAscii first then first.toNat < 'a'.toNat else Text.isUppercase first

/-- Reads the rest of a member tag. A point at the very end is let pass. -/
def memberTag (start : Nat) (first : TagObject) : Reader Tag := do
  let step (state : TagObject × Option Tag) : Reader ((TagObject × Option Tag) ⊕ Tag) := do
    let more ← eat "."
    if more && (← kind) != .endOfFile then
      let property ← markupWord
      if property.text.toList.contains '-' then
        throw (.error "Unexpected token" property.span)
      let span ← spanFrom start
      return .inl (.member span state.1 property, some (.member span state.1 property))
    else
      match state.2 with
      | some tag => return .inr tag
      | none => unexpected
  iterate step (first, none)

def tagName : Reader Tag := do
  let start := (← token).start
  let first ← markupWord
  if ← eat ":" then
    let name ← markupWord
    return .namespaced (← spanFrom start) first name
  else if ← isAt "." then
    memberTag start (if first.text = "this" then .this first.span else .reference first)
  else if namesBinding first.text then return .reference first
  else if first.text = "this" then return .this first.span
  else return .intrinsic first

def bracedExpression (grammar : Grammar) : Reader Expr := do
  match ← joiningIn true grammar.expression with
  | .sequence span _ =>
      throw (.error "TS(18007): JSX expressions may not use the comma operator" span)
  | value => return value

def braced (grammar : Grammar) (inChildren : Bool) : Reader (Span × Braced) := do
  let start := (← token).start
  advance
  let content ←
    if ← isAt "\x7d" then
      pure (Braced.empty (spanBetween (← get).previousEnd (← token).start))
    else Braced.expr <$> grammar.bracedExpression
  expectBefore inChildren "\x7d"
  return (← spanFrom start, content)

def attributeValue (grammar : Grammar) : Reader AttributeValue := do
  let span ← tokenSpan
  match ← kind with
  | .string value _ =>
      advance
      return .text span value
  | .punctuator "\x7b" =>
      let (span, content) ← grammar.braced false
      return .braced span content
  | .punctuator "<" => return .markup (← grammar.markup false)
  | _ => unexpected

def attributeName : Reader AttributeName := do
  let start := (← token).start
  let first ← markupWord
  if ← eat ":" then
    let name ← markupWord
    return .namespaced (← spanFrom start) first name
  else return .plain first

def readAttribute (grammar : Grammar) : Reader Attribute := do
  let start := (← token).start
  if ← isAt "\x7b" then
    advance
    expect "..."
    let argument ← grammar.bracedExpression
    expect "\x7d"
    return .spread (← spanFrom start) argument
  let name ← attributeName
  if ← isAt "=" then
    advanceToValue
    let value ← grammar.attributeValue
    return .named (← spanFrom start) name value
  else return .named (← spanFrom start) name .bare

def readAttributes (grammar : Grammar) : Reader (List Attribute) :=
  iterate (fun (found : List Attribute) => do
    match ← kind with
    | .endOfFile => return .inr found.reverse
    | .punctuator "<" => return .inr found.reverse
    | .punctuator ">" => return .inr found.reverse
    | .punctuator "/" => return .inr found.reverse
    | _ => return .inl ((← grammar.readAttribute) :: found)) []

def child? (grammar : Grammar) : Reader (Option Child) := do
  let span ← tokenSpan
  match ← kind with
  | .text value =>
      advanceToChildren
      return some (.text span value (some value))
  | .punctuator "<" =>
      let next ← following
      if next = .punctuator "/" then return none
      else if next = .punctuator ">" || next.word?.isSome then
        return some (.markup (← grammar.markup true))
      else unexpectedFollowing
  | .punctuator "\x7b" =>
      if (← following) = .punctuator "..." then
        let start := (← token).start
        advance
        advance
        let argument ← grammar.bracedExpression
        expectBefore true "\x7d"
        return some (.spread (← spanFrom start) argument)
      else
        let (span, content) ← grammar.braced true
        return some (.braced span content)
  | _ => unexpected

def readChildren (grammar : Grammar) : Reader (List Child) :=
  iterate (fun (found : List Child) => do
    if (← kind) = .endOfFile then return .inr found.reverse
    match ← grammar.child? with
    | some child => return .inl (child :: found)
    | none => return .inr found.reverse) []

def sameObject : TagObject → TagObject → Bool
  | .reference left, .reference right => left.text == right.text
  | .this _, .this _ => true
  | .member _ left leftProperty, .member _ right rightProperty =>
      sameObject left right && leftProperty.text == rightProperty.text
  | _, _ => false

def sameTag : Tag → Tag → Bool
  | .intrinsic left, .intrinsic right => left.text == right.text
  | .reference left, .reference right => left.text == right.text
  | .namespaced _ leftSpace left, .namespaced _ rightSpace right =>
      leftSpace.text == rightSpace.text && left.text == right.text
  | .member _ left leftProperty, .member _ right rightProperty =>
      sameObject left right && leftProperty.text == rightProperty.text
  | .this _, .this _ => true
  | _, _ => false

def fragment (grammar : Grammar) (start : Nat) (inChildren : Bool) : Reader Markup := do
  expectBefore true ">"
  let children ← grammar.readChildren
  expect "<"
  expect "/"
  expectBefore inChildren ">"
  return .fragment (← spanFrom start) children

/-- Reads the rest of an element, the cursor being on its name. A closing tag with another
name is complained about. -/
def element (grammar : Grammar) (start : Nat) (inChildren : Bool) : Reader Markup := do
  let tag ← tagName
  if (← get).typed && (← isAt "<") then discard grammar.typeArguments
  let attributes ← grammar.readAttributes
  if ← eat "/" then
    expectBefore inChildren ">"
    let span ← spanFrom start
    return .element span span tag attributes []
  expectBefore true ">"
  let opening ← spanFrom start
  let children ← grammar.readChildren
  expect "<"
  expect "/"
  let closing ← tagName
  expectBefore inChildren ">"
  unless sameTag tag closing do
    complain ("Expected corresponding JSX closing tag for '" ++ (← sourceText tag.span) ++ "'.")
      closing.span
  return .element (← spanFrom start) opening tag attributes children

def readMarkup (grammar : Grammar) (inChildren : Bool) : Reader Markup := do
  let start := (← token).start
  advance
  if ← isAt ">" then grammar.fragment start inChildren
  else if (← kind).word?.isSome then grammar.element start inChildren
  else unexpected

end JsxLowering.Source.Grammar
