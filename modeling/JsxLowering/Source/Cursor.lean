import JsxLowering.Source.Lexer

set_option autoImplicit false

/-!
Reading tokens one by one. A cursor stands on a token. A reader moves it, and either
returns something or stops at the first thing that makes no sense; complaints that
reading can go on after are kept aside.
-/

namespace JsxLowering.Source

structure Enclosure where
  inClass : Bool
  inMethod : Bool
  /-- Whether it is a function that is no arrow function, which may be called to make something
  new. -/
  inCallable : Bool

structure Cursor where
  source : List Char
  typed : Bool
  lexer : Lexer
  token : Token
  previousEnd : Nat
  inFunction : Bool
  enclosure : Enclosure
  waits : Bool
  yields : Bool
  joinsIn : Bool
  /-- Whether an expression is read that decorates something, so that no brackets belong to it. -/
  decorates : Bool
  decorators : List Part
  /-- Where no arrow function starts, though it seemed so. -/
  noArrows : List Nat
  /-- Where properties start that only what is assigned to can have. -/
  loose : List Nat
  peeked : Option (Token × Lexer)
  exported : List String
  /-- How often a value was exported under no name. -/
  defaults : Nat
  /-- Complaints so far, latest first. -/
  complaints : List Diagnostic
  /-- Complaints about exports, latest first. -/
  exportComplaints : List Diagnostic

abbrev Reader (α : Type) := EStateM Diagnostic Cursor α

namespace Cursor

def ofLexer (source : List Char) (typed : Bool) (lexer : Lexer) : Cursor :=
  let first := lexer.script
  { source
    typed
    lexer := first.2
    token := first.1
    previousEnd := 0
    inFunction := false
    enclosure := ⟨false, false, false⟩
    waits := true
    yields := false
    joinsIn := true
    decorates := false
    decorators := []
    noArrows := []
    loose := []
    peeked := none
    exported := []
    defaults := 0
    complaints := []
    exportComplaints := [] }

def next (cursor : Cursor) (read : Lexer → Token × Lexer) : Cursor :=
  let following := read cursor.lexer
  { cursor with
    token := following.1
    lexer := following.2
    previousEnd := cursor.token.stop }

def fuel (cursor : Cursor) : Nat := cursor.lexer.fuel + 1

end Cursor

namespace Reader

variable {α β : Type}

def token : Reader Token := return (← get).token

def kind : Reader Kind := return (← token).kind

def isAt (symbol : String) : Reader Bool := return (← kind) = .punctuator symbol

def isAtWord (word : String) : Reader Bool := return (← kind) = .keyword word

def skip : Reader Unit := modify fun cursor =>
  match cursor.peeked with
  | some (token, lexer) =>
      { cursor with token, lexer, previousEnd := cursor.token.stop, peeked := none }
  | none => cursor.next Lexer.script

/-- Looks at the next token of script. It stays the next one, even if something else is read in
between. -/
def peek : Reader Unit := modify fun cursor =>
  { cursor with peeked := cursor.peeked <|> some cursor.lexer.script }

def complain (message : String) (span : Span) : Reader Unit :=
  modify fun cursor => { cursor with complaints := .error message span :: cursor.complaints }

def checkEscapes : Reader Unit := do
  let token ← token
  match token.kind with
  | .keyword _ =>
      if token.escaped then
        complain "Keywords cannot contain escape characters" (spanBetween token.start token.stop)
  | _ => pure ()

def advance : Reader Unit := do
  checkEscapes
  skip

def advanceToChildren : Reader Unit := modify fun cursor => cursor.next Lexer.children

def advanceToValue : Reader Unit := modify fun cursor => cursor.next Lexer.attributeValue

def tokenSpan : Reader Span := do
  let token ← token
  return spanBetween token.start token.stop

def spanFrom (start : Nat) : Reader Span := return spanBetween start (← get).previousEnd

/-- Stops at a token that cannot stand here. A complaint about the token itself says more. -/
def unexpected : Reader α := do
  let cursor ← get
  match cursor.token.kind, cursor.lexer.complaints with
  | .unknown, complaint :: others =>
      set { cursor with lexer := { cursor.lexer with complaints := others } }
      throw complaint
  | _, _ => throw (.error "Unexpected token" (← tokenSpan))

/-- Notes a name that is exported. No name is exported twice. -/
def exportName (name : Name) : Reader Unit := modify fun cursor =>
  { cursor with
    exported := name.text :: cursor.exported
    exportComplaints :=
      if cursor.exported.contains name.text then
        .error ("Duplicated export '" ++ name.text ++ "'") name.span :: cursor.exportComplaints
      else cursor.exportComplaints }

/-- Notes a value that is exported under no name. -/
def exportValue : Reader Unit := modify fun cursor =>
  { cursor with defaults := cursor.defaults + 1 }

/-- Stops at a token because another one is expected. -/
def expected {α : Type} (what : String) : Reader α := do
  throw (.error ("Expected `" ++ what ++ "` but found `" ++ (← kind).describe ++ "`") (← tokenSpan))

def require (symbol : String) : Reader Unit := do
  unless ← isAt symbol do expected symbol

def expect (symbol : String) : Reader Unit := do
  require symbol
  advance

def expectWord (word : String) : Reader Unit := do
  unless ← isAtWord word do expected word
  advance

def expectBefore (children : Bool) (symbol : String) : Reader Unit := do
  require symbol
  if children then advanceToChildren else advance

def eat (symbol : String) : Reader Bool := do
  if ← isAt symbol then
    advance
    return true
  return false

def eatWord (word : String) : Reader Bool := do
  if ← isAtWord word then
    advance
    return true
  return false

/-- Runs a reader and moves back if it stops. What it learned about arrow functions is kept. -/
def attempt (reader : Reader α) : Reader (Option α) := fun cursor =>
  match reader cursor with
  | .ok value after => .ok (some value) after
  | .error _ after => .ok none { cursor with noArrows := after.noArrows }

/-- Runs a reader and moves back in any case. -/
def ahead (reader : Reader α) : Reader α := fun cursor =>
  match reader cursor with
  | .ok value _ => .ok value cursor
  | .error complaint after => .error complaint after

def following : Reader Kind := ahead (do advance; kind)

/-- Stops at a token because of the one after it. -/
def unexpectedFollowing : Reader α := do
  let after ← ahead (do advance; get)
  modify fun cursor =>
    { cursor with lexer := { cursor.lexer with complaints := after.lexer.complaints } }
  unexpected

def inside (waits yields : Bool) (reader : Reader α) : Reader α := do
  let outside ← get
  modify fun cursor => { cursor with waits, yields }
  let value ← reader
  modify fun cursor => { cursor with waits := outside.waits, yields := outside.yields }
  return value

def enclosed (change : Enclosure → Enclosure) (reader : Reader α) : Reader α := do
  let outside := (← get).enclosure
  modify fun cursor => { cursor with enclosure := change outside }
  let value ← reader
  modify fun cursor => { cursor with enclosure := outside }
  return value

def joiningIn (joinsIn : Bool) (reader : Reader α) : Reader α := do
  let outside := (← get).joinsIn
  modify fun cursor => { cursor with joinsIn }
  let value ← reader
  modify fun cursor => { cursor with joinsIn := outside }
  return value

def decorating (decorates : Bool) (reader : Reader α) : Reader α := do
  let outside := (← get).decorates
  modify fun cursor => { cursor with decorates }
  let value ← reader
  modify fun cursor => { cursor with decorates := outside }
  return value

/-- Repeats a step until it is done, at most as often as the fuel says. -/
def iterateWith (step : α → Reader (α ⊕ β)) : Nat → α → Reader β
  | 0, _ => unexpected
  | fuel + 1, state => do
      match ← step state with
      | .inl state => iterateWith step fuel state
      | .inr result => return result

/-- Repeats a step until it is done. Every step but the last reads a token. -/
def iterate (step : α → Reader (α ⊕ β)) (state : α) : Reader β := do
  iterateWith step (← get).fuel state

def many (element : Reader (Option α)) : Reader (List α) :=
  iterate (fun (found : List α) => do
    match ← element with
    | some value => return .inl (value :: found)
    | none => return .inr found.reverse) []

/-- Reads elements up to a closing punctuator, with commas between them. A comma after the
last is read too, if one is allowed there. -/
def delimited (close : String) (trailing : Bool) (element : Reader α) : Reader (List α) :=
  let step (found : List α) : Reader (List α ⊕ List α) := do
    if (← isAt close) || (← kind) = .endOfFile then return .inr found.reverse
    unless found.isEmpty do
      if !trailing && (← isAt ",") && (← following) = .punctuator close then
        return .inr found.reverse
      expect ","
      if ← isAt close then return .inr found.reverse
    return .inl ((← element) :: found)
  iterate step []

def isIdentifier (kind : Kind) : Bool :=
  match kind.word? with
  | some word => !reservedWords.contains word
  | none => false

/-- Reads an identifier: any word that is not reserved. -/
def identifier : Reader Name := do
  unless isIdentifier (← kind) do unexpected
  let span ← tokenSpan
  let word := ((← kind).word?).getD ""
  skip
  if word = "await" && (← get).waits then
    complain "Cannot use `await` as an identifier in an async context" span
  if word = "yield" && (← get).yields then
    complain "Cannot use `yield` as an identifier in a generator context" span
  return ⟨span, word⟩

def anyWord : Reader Name := do
  match (← kind).word? with
  | some word =>
      let span ← tokenSpan
      skip
      return ⟨span, word⟩
  | none => unexpected

def bindingName : Reader Name := do
  match (← kind).word? with
  | some word =>
      if reservedWords.contains word then
        throw (.error
          ("Identifier expected. '" ++ word ++ "' is a reserved word that cannot be used here.")
          (← tokenSpan))
      else identifier
  | none => unexpected

def mayEnd : Reader Bool := do
  let token ← token
  return token.kind = .punctuator ";" || token.kind = .punctuator "\x7d" ||
    token.kind = .endOfFile || token.afterNewline

def endStatement : Reader Unit := do
  if ← mayEnd then
    discard (eat ";")
  else
    let stop := (← get).previousEnd
    throw (.error
      "Expected a semicolon or an implicit semicolon after a statement, but found none"
      (spanBetween stop stop))

end Reader

end JsxLowering.Source
