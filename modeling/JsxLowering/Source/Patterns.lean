import JsxLowering.Source.Literals
import JsxLowering.Source.Types

set_option autoImplicit false

/-!
The grammar of places for values: names, and patterns that take a value apart on its way to
names.
-/

namespace JsxLowering.Source.Grammar

open Reader

def namePattern (name : Name) : Pattern :=
  ⟨name.span, [.piece (.binding name)], [name], some name⟩

def standard (grammar : Grammar) (start : Nat) (place : Pattern) : Reader Pattern := do
  if ← eat "=" then
    let value ← joiningIn true grammar.assignment
    return { place with
      span := ← spanFrom start
      parts := place.parts ++ [.gap, .text "=", .gap, .expr .comma value]
      name? := none }
  return place

def typedPlace (grammar : Grammar) (start : Nat) (place : Pattern) (mark : List Piece) :
    Reader Pattern := do
  let type := mark ++ (← grammar.annotation)
  if type.isEmpty then return place
  let span ← spanFrom start
  let parts : List Part :=
    match place.name? with
    | some name => [.piece (.binding ⟨span, name.text⟩)]
    | none => place.parts
  return { place with span, parts := parts ++ type.map Part.piece, name? := none }

def place (grammar : Grammar) : Reader Pattern := do
  let start := (← token).start
  let found ← grammar.pattern
  let optional : List Piece := if (← get).typed && (← eat "?") then [.text "?"] else []
  grammar.standard start (← grammar.typedPlace start found optional)

def restPlace (grammar : Grammar) : Reader Pattern := do
  let start := (← token).start
  expect "..."
  let innerStart := (← token).start
  let inner ← grammar.typedPlace innerStart (← grammar.pattern) []
  let found ← grammar.standard innerStart inner
  unless found.parts.length = inner.parts.length do
    complain "A rest element cannot have an initializer" found.span
  let span ← spanFrom start
  return { found with
    span
    parts := .piece (.link span.start) :: .text "..." :: found.parts
    name? := inner.name? }

/-- Reads places up to a closing punctuator, and the place for what is left over. Nothing may come
after that one. -/
def places (grammar : Grammar) (close last : String) (place : Reader (Option Pattern)) :
    Reader (List (Option Pattern) × Option Pattern) :=
  let step (found : List (Option Pattern) × Option Pattern) := do
    if (← isAt close) || (← kind) = .endOfFile then return .inr (found.1.reverse, found.2)
    unless found.1.isEmpty && found.2.isNone do
      let comma ← tokenSpan
      expect ","
      if ← isAt close then
        if found.2.isSome then
          complain "A rest parameter or binding pattern may not have a trailing comma" comma
        return .inr (found.1.reverse, found.2)
    match found.2 with
    | some rest => throw (.error last rest.span)
    | none =>
        if ← isAt "..." then return .inl (found.1, some (← grammar.restPlace))
        return .inl ((← place) :: found.1, none)
  iterate step ([], none)

def namesOf (places : List (Option Pattern)) (rest : Option Pattern) : List Name :=
  (places ++ [rest]).flatMap fun place =>
    match place with
    | some place => place.names
    | none => []

def keyedPlace (grammar : Grammar) : Reader Pattern := do
  let start := (← token).start
  let isName := isIdentifier (← kind)
  let (key, computed) ← grammar.propertyName
  match key with
  | .name name =>
      if isName && !(← isAt ":") then return ← grammar.standard start (namePattern name)
  | .expr _ => pure ()
  expect ":"
  let value ← grammar.place
  let parts :=
    match key with
    | .name name =>
        if value.name?.any fun inner => inner.text = name.text then value.parts
        else keyParts key computed ++ .text ":" :: .gap :: value.parts
    | .expr _ => keyParts key computed ++ .text ":" :: .gap :: value.parts
  return { value with span := ← spanFrom start, parts, name? := none }

def objectPattern (grammar : Grammar) : Reader Pattern := do
  let start := (← token).start
  advance
  let (found, rest) ← grammar.places "\x7d"
    "A rest element must be last in a destructuring pattern" (some <$> grammar.keyedPlace)
  if rest.any fun place => place.name?.isNone then
    complain "Invalid rest element" (← spanFrom start)
  expect "\x7d"
  let span ← spanFrom start
  let members := (found ++ [rest]).filterMap fun place => place.map Pattern.parts
  let inner := if members.isEmpty then [] else .gap :: Part.separated members ++ [.gap]
  return {
    span
    parts := .piece (.link span.start) :: .text "\x7b" :: inner ++ [.text "\x7d"]
    names := namesOf found rest
    name? := none }

def arrayPattern (grammar : Grammar) : Reader Pattern := do
  let start := (← token).start
  advance
  let (found, rest) ← grammar.places "]"
    "A rest element must be last in a destructuring pattern" do
      if ← isAt "," then return none
      some <$> grammar.place
  expect "]"
  let span ← spanFrom start
  let members := found.map fun place => (place.map Pattern.parts).getD []
  let ending : List Part :=
    match rest, found.getLast? with
    | some place, some _ => .text "," :: .gap :: place.parts
    | some place, none => .gap :: place.parts
    | none, some none => [.text ","]
    | none, _ => []
  return {
    span
    parts := .piece (.link span.start) :: .text "[" :: Part.separated members ++ ending ++
      [.text "]"]
    names := namesOf found rest
    name? := none }

def readPattern (grammar : Grammar) : Reader Pattern := do
  if ← isAt "\x7b" then grammar.objectPattern
  else if ← isAt "[" then grammar.arrayPattern
  else return namePattern (← bindingName)

end JsxLowering.Source.Grammar
