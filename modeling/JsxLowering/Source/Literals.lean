import JsxLowering.Source.Grammar

set_option autoImplicit false

/-!
The grammar of literals, and of the names of properties, which may be literals.
-/

namespace JsxLowering.Source.Grammar

open Reader

/-! Strings and numbers. -/

/-- The expression that a string is. One that holds half of a pair is kept as it is written. -/
def stringLiteral (span : Span) (value : String) (whole : Bool) : Reader Expr := do
  if whole then return .string span value
  return .verbatim span (← sourceText span)

def numeral (span : Span) : Numeral → Reader Expr
  | .whole value => return .number span value
  | .fraction value => return .fraction span value
  | .big text => return .verbatim span text
  | .unreadable => throw (.error "Invalid Number invalid float" span)

/-! Text in backticks. -/

def fitsTemplate : List Char → Bool
  | '\\' :: c :: rest => Escape.fitsTemplate c rest && fitsTemplate rest
  | _ :: rest => fitsTemplate rest
  | [] => true

/-- The text that a token between backticks holds, and whether it is the last. A token that opens
other backticks holds none here, unless it is the first. -/
def templateText? (first : Bool) : Kind → Option (String × Bool)
  | .template text closed => if first then some (text, closed) else none
  | .templateRest text closed => some (text, closed)
  | _ => none

/-- Reads a text between backticks. Only with a tag may escapes make no sense. -/
def templateElement (tagged : Bool) (text : String) : Reader (List Part) := do
  let span ← tokenSpan
  unless tagged || fitsTemplate text.toList do
    complain "Bad escape sequence in untagged template literal" span
  advance
  return [.piece (.link (span.start + 1)), .text text]

def resumeTemplate : Reader Unit := do
  if ← isAt "\x7d" then
    modify fun cursor =>
      let following := cursor.lexer.templateRest
      { cursor with
        token := { following.1 with start := cursor.token.start }
        lexer := following.2 }

def joinTemplate : List (List Part) → List Expr → List Part
  | [], _ => []
  | text :: rest, value :: values =>
      text ++ .text "$\x7b" :: .expr .lowest value :: .text "\x7d" :: joinTemplate rest values
  | text :: rest, [] => text ++ joinTemplate rest []

/-- What was read of a text in backticks: its texts and what is put between them, latest first. -/
structure Template where
  texts : List (List Part)
  values : List Expr

def template (grammar : Grammar) (tagged : Bool) : Reader (List Part) := do
  let step (found : Template) : Reader (Template ⊕ Template) := do
    match templateText? found.texts.isEmpty (← kind) with
    | some (text, closed) =>
        let found := { found with texts := (← templateElement tagged text) :: found.texts }
        return if closed then .inr found else .inl found
    | none =>
        if (← kind) = .endOfFile && !found.values.isEmpty then expected "\x7d"
        let value ← joiningIn true grammar.expression
        resumeTemplate
        return .inl { found with values := value :: found.values }
  let found ← iterate step ⟨[], []⟩
  return .text "\x60" :: joinTemplate found.texts.reverse found.values.reverse ++ [.text "\x60"]

def templateLiteral (grammar : Grammar) : Reader Expr := do
  let start := (← token).start
  let parts ← grammar.template false
  return .form (← spanFrom start) .atomic false parts

/-! Regular expressions. -/

/-- The letters that may follow a regular expression, in the order in which they are printed. -/
def regexFlags : List Char := ['g', 'i', 'm', 's', 'u', 'y', 'd', 'v']

/-- The body of a regular expression after its opening slash, and the text after its closing
one. A slash in brackets closes nothing. -/
def regexBody? (inBrackets : Bool) : List Char → Option (List Char × List Char)
  | [] => none
  | '\\' :: c :: rest =>
      if isLineBreak c then none
      else (regexBody? inBrackets rest).map fun found => ('\\' :: c :: found.1, found.2)
  | c :: rest =>
      if isLineBreak c then none
      else if c == '/' && !inBrackets then some ([], rest)
      else
        (regexBody? (c == '[' || (inBrackets && c != ']')) rest).map fun found =>
          (c :: found.1, found.2)

def flagComplaint? (before : List Char) (flag : Char) : Option String :=
  if !regexFlags.contains flag then
    some ("Unexpected flag " ++ flag.toString ++ " in regular expression literal")
  else if before.contains flag then
    some ("Flag " ++ flag.toString ++ " is mentioned twice in regular expression literal")
  else none

def isFlagChar (c : Char) : Bool :=
  Text.isAsciiLetter c || Text.isAsciiDigit c || c == '$' || c == '_'

def checkFlags (found : List Char) : List Char → List Char × List String
  | [] => (found, [])
  | flag :: rest =>
      match flagComplaint? found flag with
      | some complaint =>
          let checked := checkFlags found rest
          (checked.1, complaint :: checked.2)
      | none => checkFlags (flag :: found) rest

def regex : Reader Expr := do
  let cursor ← get
  let start := cursor.token.start
  let text := if ← isAt "/=" then '=' :: cursor.lexer.rest else cursor.lexer.rest
  match regexBody? false text with
  | none => throw (.error "Unterminated regular expression" (spanBetween start cursor.token.stop))
  | some (body, rest) =>
      let (flags, complaints) := checkFlags [] (rest.takeWhile isFlagChar)
      let lexer := (cursor.lexer.moveTo (rest.dropWhile isFlagChar)).complainAll start
        complaints.reverse
      set { cursor with lexer, token := { cursor.token with stop := lexer.offset } }
      advance
      return .verbatim (← spanFrom start)
        (String.ofList ('/' :: body ++ '/' :: regexFlags.filter flags.contains))

/-! Names of properties. -/

def startsName (kind : Kind) : Bool :=
  match kind with
  | .hidden _ => true
  | .string .. => true
  | .number .. => true
  | .punctuator "[" => true
  | kind => kind.word?.isSome

def propertyName (grammar : Grammar) : Reader (Key × Bool) := do
  let span ← tokenSpan
  match ← kind with
  | .string value whole =>
      advance
      return (.expr (← stringLiteral span value whole), false)
  | .number _ value =>
      let key ← numeral span value
      advance
      return (.expr key, false)
  | .punctuator "[" =>
      advance
      let key ← joiningIn true grammar.assignment
      expect "]"
      return (.expr key, true)
  | _ => return (.name (← anyWord), false)

def keyParts (key : Key) (computed : Bool) : List Part :=
  match key, computed with
  | .name name, _ => [.piece (.property name)]
  | .expr (.string span value), false => [.piece (.string span value)]
  | .expr value, false => [.expr .comma value]
  | .expr value, true => [.text "[", .expr .comma value, .text "]"]

end JsxLowering.Source.Grammar
