import JsxLowering.Annotation
import JsxLowering.Diagnostic
import JsxLowering.Source.Escape
import JsxLowering.Source.Token
import JsxLowering.Syntax
import JsxLowering.Text.IdentifierChars
import JsxLowering.Text.Utf8

set_option autoImplicit false

/-!
Cutting source text into tokens. There are three ways to read on, because markup has
its own rules: as script, as the children of an element, and as the value of an
attribute.

Comments are gathered on the way. A comment leads the token after it, unless it
stands on the line of the token before and that line ends right after it.
-/

namespace JsxLowering.Source

def spanBetween (start stop : Nat) : Span := ⟨start.toUInt32, stop.toUInt32⟩

def isSpace (c : Char) : Bool :=
  let n := c.toNat
  n == 0x09 || n == 0x0B || n == 0x0C || n == 0x20 || n == 0x85 || n == 0xA0 || n == 0x1680 ||
    (0x2000 ≤ n && n ≤ 0x200B) || n == 0x202F || n == 0x205F || n == 0x3000 || n == 0xFEFF

/-- The text from here on, and the comments met so far, latest first. -/
structure Lexer where
  rest : List Char
  offset : Nat
  size : Nat
  /-- Whether a line has ended since the last token, for the sake of comments. The start of
  the file counts as the start of a line. -/
  sawNewline : Bool
  brokeLine : Bool
  expectsMore : Bool
  /-- Whether a comment after the last token marks a call without effects. -/
  marked : Bool
  /-- Whether a comment after the last token marks a function without effects. -/
  markedFunction : Bool
  /-- Comments that may still lead a token. -/
  pending : List Comment
  comments : List Comment
  complaints : List Diagnostic

namespace Lexer

def ofText (text : List Char) : Lexer where
  rest := text
  offset := 0
  size := Text.byteLength text
  sawNewline := true
  brokeLine := false
  expectsMore := false
  marked := false
  markedFunction := false
  pending := []
  comments := []
  complaints := []

def skip (lexer : Lexer) (count : Nat) : Lexer :=
  { lexer with
    rest := lexer.rest.drop count
    offset := lexer.offset + Text.byteLength (lexer.rest.take count) }

def skipWhile (lexer : Lexer) (fits : Char → Bool) : Lexer :=
  lexer.skip (lexer.rest.takeWhile fits).length

def moveTo (lexer : Lexer) (rest : List Char) : Lexer :=
  lexer.skip (lexer.rest.length - rest.length)

def moveToEnd (lexer : Lexer) : Lexer := { lexer with rest := [], offset := lexer.size }

def fuel (lexer : Lexer) : Nat := lexer.size - lexer.offset + 1

/-- The lexer after a line has ended. Comments on the line of the last token lead nothing. -/
def noteNewline (lexer : Lexer) : Lexer :=
  match lexer.pending with
  | [] => { lexer with sawNewline := true, brokeLine := true }
  | latest :: earlier =>
      let pending := { latest with newlineAfter := true } :: earlier
      if lexer.sawNewline then
        { lexer with sawNewline := true, brokeLine := true, pending }
      else
        { lexer with
          sawNewline := true
          brokeLine := true
          pending := []
          comments := pending ++ lexer.comments }

def noteMark (lexer : Lexer) (block : Bool) (text : List Char) : Lexer :=
  let annotation := Annotation.ofComment block text
  { lexer with
    marked := lexer.marked || annotation = .callWithoutEffects
    markedFunction := lexer.markedFunction || annotation = .functionWithoutEffects }

def noteBlock (lexer : Lexer) (span : Span) (multiline : Bool) : Lexer :=
  { lexer with
    brokeLine := lexer.brokeLine || multiline
    pending := ⟨span, true, none, lexer.sawNewline, false⟩ :: lexer.pending }

def noteLine (lexer : Lexer) (span : Span) : Lexer :=
  let pending := ⟨span, false, none, lexer.sawNewline, true⟩ :: lexer.pending
  if lexer.sawNewline || lexer.expectsMore then { lexer with sawNewline := true, pending }
  else
    { lexer with
      sawNewline := true
      pending := []
      comments := pending ++ lexer.comments }

/-- The number of characters up to the end of the block comment that the text is in, after those
counted before, and whether a line ends there. -/
def blockLength? : List Char → Nat → Bool → Option (Nat × Bool)
  | '*' :: '/' :: _, count, multiline => some (count + 2, multiline)
  | c :: rest, count, multiline => blockLength? rest (count + 1) (multiline || isLineBreak c)
  | [], _, _ => none

/-- Skips white space and comments. Every step takes a character. -/
def skipTrivia : Nat → Lexer → Lexer
  | 0, lexer => lexer
  | fuel + 1, lexer =>
      match lexer.rest with
      | '/' :: '/' :: _ =>
          let after := lexer.skipWhile fun c => !isLineBreak c
          let noted := after.noteLine (spanBetween lexer.offset after.offset)
          skipTrivia fuel (noted.noteMark false (lexer.rest.takeWhile fun c => !isLineBreak c))
      | '/' :: '*' :: body =>
          match blockLength? body 2 false with
          | some (count, multiline) =>
              let after := lexer.skip count
              let noted := after.noteBlock (spanBetween lexer.offset after.offset) multiline
              skipTrivia fuel (noted.noteMark true (lexer.rest.take count))
          | none =>
              let after := lexer.moveToEnd
              { after with
                complaints :=
                  .error "Unterminated multiline comment"
                    (spanBetween lexer.offset after.offset) :: after.complaints }
      | c :: _ =>
          if isLineBreak c then skipTrivia fuel (lexer.skip 1).noteNewline
          else if isSpace c then skipTrivia fuel (lexer.skip 1)
          else lexer
      | [] => lexer

/-- Ends a token that began at `start` and reaches up to here. The comments before it lead
it from now on. -/
def finish (lexer : Lexer) (kind : Kind) (start : Nat) : Token × Lexer :=
  (⟨kind, start, lexer.offset, lexer.brokeLine, lexer.marked, lexer.markedFunction, false⟩,
    { lexer with
      sawNewline := false
      marked := false
      markedFunction := false
      brokeLine := false
      expectsMore := kind = .punctuator "=" || kind = .punctuator "("
      pending := []
      comments :=
        lexer.pending.map (fun comment => { comment with attachedTo := some start.toUInt32 }) ++
          lexer.comments })

def complain (lexer : Lexer) (start : Nat) (message : String) : Lexer :=
  { lexer with complaints := .error message (spanBetween start lexer.offset) :: lexer.complaints }

/-- Complains in order; the latest complaint comes first. -/
def complainAll (lexer : Lexer) (start : Nat) (messages : List String) : Lexer :=
  messages.foldr (fun message lexer => lexer.complain start message) lexer

def finishUnknown (lexer : Lexer) (message : String) (start : Nat) : Token × Lexer :=
  (lexer.complain start message).finish .unknown start

/-- What was read of a string literal: its value, last character first, how many characters were
taken and the text after them, whether it was closed, whether it holds whole characters only,
and the complaints about it, latest first. -/
structure StringBody where
  value : List Char
  taken : Nat
  rest : List Char
  closed : Bool
  whole : Bool
  complaints : List String

/-- Reads a string literal after its opening quote. A literal ends on its line, and one that
does not takes the end of the line with it. Every step takes a character. -/
def stringBody (quote : Char) (body : StringBody) : Nat → StringBody
  | 0 => body
  | fuel + 1 =>
      match body.rest with
      | [] => { body with complaints := "Unterminated string" :: body.complaints }
      | '\\' :: [] =>
          { body with
            taken := body.taken + 1
            rest := []
            complaints := "Unterminated string" :: "Unterminated string" :: body.complaints }
      | '\\' :: first :: rest =>
          let escape := Escape.read first rest
          stringBody quote
            { body with
              value := escape.value.reverse ++ body.value
              taken := body.taken + (body.rest.length - escape.rest.length)
              rest := escape.rest
              whole := body.whole && escape.whole
              complaints :=
                if escape.valid then body.complaints
                else "Invalid escape sequence" :: body.complaints } fuel
      | c :: rest =>
          let taken := body.taken + 1
          if c = quote then { body with taken, rest, closed := true }
          else if c == '\n' || c == '\r' then
            { body with taken, rest, complaints := "Unterminated string" :: body.complaints }
          else stringBody quote { body with value := c :: body.value, taken, rest } fuel

def string (lexer : Lexer) (quote : Char) (text : List Char) : Token × Lexer :=
  let body := stringBody quote ⟨[], 1, text, false, true, []⟩ lexer.fuel
  let start := lexer.offset
  let after := (lexer.skip body.taken).complainAll start body.complaints
  let value := String.ofList body.value.reverse
  after.finish (if body.closed then .string value body.whole else .unknown) start

def number (lexer : Lexer) : Token × Lexer :=
  let reading := Numeral.read lexer.rest
  let text := lexer.rest.take (lexer.rest.length - reading.rest.length)
  let start := lexer.offset
  let after := (lexer.moveTo reading.rest).complainAll start reading.complaints
  after.finish
    (if reading.broken then .unknown
     else .number reading.form (Numeral.value reading.form text)) start

/-- What was read of a word: its characters, last first, the text after it, whether that is
still the start of the word, and the complaints about it, latest first. -/
structure WordBody where
  name : List Char
  rest : List Char
  atStart : Bool
  complaints : List String

def escapeComplaint? (atStart : Bool) (text : List Char) : Option String :=
  let escape := Escape.unicode text
  match escape.value with
  | [c] =>
      if !escape.valid || !escape.whole || Escape.startsPair text then
        some "Invalid Unicode escape sequence"
      else if if atStart then Text.isNameStart c else Text.isNamePart c then none
      else some ("Invalid Character `" ++ c.toString ++ "`")
  | _ => some "Invalid Unicode escape sequence"

/-- Reads a word with escapes. Those that make no sense leave nothing in it. -/
def wordBody (body : WordBody) : Nat → WordBody
  | 0 => body
  | fuel + 1 =>
      match body.rest with
      | '\\' :: 'u' :: rest =>
          let escape := Escape.unicode rest
          match escapeComplaint? body.atStart rest with
          | none => wordBody ⟨escape.value ++ body.name, escape.rest, false, body.complaints⟩ fuel
          | some complaint =>
              wordBody ⟨body.name, escape.rest, false, complaint :: body.complaints⟩ fuel
      | '\\' :: rest =>
          wordBody
            ⟨body.name, rest, false, "Invalid Unicode escape sequence" :: body.complaints⟩ fuel
      | c :: rest =>
          if Text.isNamePart c then wordBody ⟨c :: body.name, rest, false, body.complaints⟩ fuel
          else body
      | [] => body

def word (lexer : Lexer) : Token × Lexer :=
  let plain := lexer.rest.takeWhile Text.isNamePart
  let rest := lexer.rest.dropWhile Text.isNamePart
  if rest.head? = some '\\' then
    let body := wordBody ⟨plain.reverse, rest, plain.isEmpty, []⟩ lexer.fuel
    let start := lexer.offset
    let after := (lexer.moveTo body.rest).complainAll start body.complaints
    let (token, after) := after.finish (.ofWord (String.ofList body.name.reverse)) start
    ({ token with escaped := true }, after)
  else (lexer.skip plain.length).finish (.ofWord (String.ofList plain)) lexer.offset

def hidden (lexer : Lexer) (text : List Char) : Token × Lexer :=
  let start := lexer.offset
  match text with
  | [] => lexer.moveToEnd.finishUnknown "Unexpected end of file" start
  | c :: _ =>
      if Text.isNameStart c then
        ((lexer.skip 1).skipWhile Text.isNamePart).finish
          (.hidden (String.ofList (text.takeWhile Text.isNamePart))) start
      else (lexer.skip 2).finishUnknown ("Invalid Character `" ++ c.toString ++ "`") start

/-- What was read of the text between backticks: the text, what follows it, and whether it was
closed or goes on after something that is put into it. Without the end there is a number of
complaints. -/
inductive TemplateBody where
  | found (text : List Char) (rest : List Char) (closed : Bool)
  | unended (complaints : Nat)

def TemplateBody.after (before : List Char) : TemplateBody → TemplateBody
  | found text rest closed => found (before ++ text) rest closed
  | unended complaints => unended complaints

/-- Reads text between backticks. A line break is a line feed. -/
def templateBody : List Char → TemplateBody
  | '\x60' :: rest => .found [] rest true
  | '\\' :: c :: rest => (templateBody rest).after ['\\', c]
  | ['\\'] => .unended 2
  | '$' :: '\x7b' :: rest => .found [] rest false
  | '\r' :: '\n' :: rest => (templateBody rest).after ['\n']
  | c :: rest => (templateBody rest).after [c]
  | [] => .unended 1

def template (lexer : Lexer) (kind : String → Bool → Kind) (start : Nat) (text : List Char) :
    Token × Lexer :=
  match templateBody text with
  | .found body rest closed => (lexer.moveTo rest).finish (kind (String.ofList body) closed) start
  | .unended count =>
      (lexer.moveToEnd.complainAll start (List.replicate count "Unterminated string")).finish
        .unknown start

def templateRest (lexer : Lexer) : Token × Lexer :=
  lexer.template .templateRest lexer.offset lexer.rest

def script (lexer : Lexer) : Token × Lexer :=
  let lexer := skipTrivia lexer.fuel lexer
  let start := lexer.offset
  match lexer.rest with
  | [] => lexer.finish .endOfFile start
  | c :: rest =>
      if Text.isNameStart c || c == '\\' then lexer.word
      else if Text.isAsciiDigit c || (c == '.' && rest.head?.any Text.isAsciiDigit) then
        lexer.number
      else if c == '"' || c == '\'' then lexer.string c rest
      else if c == '#' then lexer.hidden rest
      else if c == '\x60' then lexer.template .template start rest
      else
        match punctuatorAt? lexer.rest with
        | some symbol =>
            (lexer.skip symbol.length).finish (.punctuator symbol) start
        | none =>
            (lexer.skip 1).finishUnknown ("Invalid Character `" ++ c.toString ++ "`") start

def textComplaint (c : Char) : String :=
  let name := if c == '\x7d' then "&rbrace;" else "&gt;"
  "Unexpected token. Did you mean `\x7b'" ++ c.toString ++ "'\x7d` or `" ++ name ++ "`?"

/-- Reads the next token among the children of an element: a tag's or a brace's opening, or
the text up to it. Text that nothing follows makes no token. -/
def children (lexer : Lexer) : Token × Lexer :=
  let start := lexer.offset
  match lexer.rest with
  | [] => lexer.finish .endOfFile start
  | '<' :: _ => (lexer.skip 1).finish (.punctuator "<") start
  | '\x7b' :: _ => (lexer.skip 1).finish (.punctuator "\x7b") start
  | text =>
      let stops (c : Char) : Bool := c == '<' || c == '\x7b' || c == '>' || c == '\x7d'
      let after := lexer.skipWhile fun c => !stops c
      match after.rest with
      | '>' :: _ => after.finishUnknown (textComplaint '>') start
      | '\x7d' :: _ => after.finishUnknown (textComplaint '\x7d') start
      | [] => after.finish .unknown start
      | _ =>
          after.finish (.text (String.ofList (text.takeWhile fun c => !stops c))) start

/-- Reads the next token where an attribute's value may stand. A quoted value knows no
escapes and may span lines. -/
def attributeValue (lexer : Lexer) : Token × Lexer :=
  let lexer := skipTrivia lexer.fuel lexer
  let start := lexer.offset
  let quotedValue (quote : Char) (rest : List Char) : Token × Lexer :=
    let value := rest.takeWhile (· != quote)
    let after := lexer.skip (value.length + 1)
    match after.rest with
    | _ :: _ => (after.skip 1).finish (.string (String.ofList value) true) start
    | [] => after.finishUnknown "Unterminated string" start
  match lexer.rest with
  | '"' :: rest => quotedValue '"' rest
  | '\'' :: rest => quotedValue '\'' rest
  | _ => lexer.script

end Lexer

end JsxLowering.Source
