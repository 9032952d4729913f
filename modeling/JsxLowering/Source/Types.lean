import JsxLowering.Printer.Literal
import JsxLowering.Source.Grammar

set_option autoImplicit false

/-!
What types are written next to: annotations, arguments and parameters. Nothing looks into a
type, so that it is kept as the pieces it is printed from.
-/

namespace JsxLowering.Source.Grammar

open Reader

def joinTypes : List (List Piece) → List Piece
  | [] => []
  | [last] => last
  | first :: rest => first ++ .text "," :: .gap :: joinTypes rest

def typeLines : List (List Piece) → List Piece
  | [] => []
  | [last] => .newline :: .line :: last
  | first :: rest => .newline :: .line :: first ++ .text "," :: typeLines rest

/-- Types between angle brackets. More than one take a line each. -/
def inAngles (types : List (List Piece)) (single : List Piece) : List Piece :=
  match types with
  | _ :: _ :: _ =>
      .text "<" :: .deeper :: typeLines types ++ [.newline, .shallower, .line, .text ">"]
  | _ => .text "<" :: joinTypes types ++ single ++ [.text ">"]

def typeArguments (grammar : Grammar) : Reader (List Piece) := do
  expect "<"
  let arguments ← delimited ">" false grammar.type
  expect ">"
  return inAngles arguments []

def qualifiedName (first : Name) : Reader (List Piece) :=
  iterate (fun (pieces : List Piece) => do
    if ← eat "." then return .inl (pieces ++ [.text ".", .property (← anyWord)])
    else return .inr pieces) [Piece.name first]

def namedType (grammar : Grammar) : Reader (List Piece) := do
  let named ← qualifiedName (← anyWord)
  if (← isAt "<") && !(← token).afterNewline then return named ++ (← grammar.typeArguments)
  return named

def annotation (grammar : Grammar) : Reader (List Piece) := do
  if (← get).typed && (← isAt ":") then
    advance
    let type ← grammar.type
    return .text ":" :: .gap :: type
  return []

/-- Reads what a function returns: a type, or what it says about the type of a name. -/
def returnType (grammar : Grammar) : Reader (List Piece) := do
  let subject ← attempt do
    let name ← anyWord
    unless (← isAtWord "is") && !(← token).afterNewline do unexpected
    advance
    return name
  let type ← grammar.type
  return (subject.toList.flatMap fun name => [.property name, .text " is "]) ++ type

def returned (grammar : Grammar) : Reader (List Piece) := do
  if (← get).typed && (← isAt ":") then
    advance
    let type ← grammar.returnType
    return .text ":" :: .gap :: type
  return []

def typeParameter (grammar : Grammar) : Reader (List Piece) := do
  let name ← bindingName
  let bound : List Piece ←
    if ← eatWord "extends" then
      let type ← grammar.type
      pure (.text " extends " :: type)
    else pure []
  let standard : List Piece ←
    if ← eat "=" then
      let type ← grammar.type
      pure (.text " = " :: type)
    else pure []
  return .binding name :: bound ++ standard

/-- Reads the parameters that stand for types, if there may be any. One alone gets a comma, so that
it is not read as markup. -/
def typeParameters (grammar : Grammar) : Reader (List Piece) := do
  if (← get).typed && (← isAt "<") then
    let span ← tokenSpan
    advance
    let found ← delimited ">" true grammar.typeParameter
    expect ">"
    if found.isEmpty then complain "Type parameter list cannot be empty." span
    return inAngles found [.text ","]
  return []

end JsxLowering.Source.Grammar
