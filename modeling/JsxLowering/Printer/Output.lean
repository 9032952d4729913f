import JsxLowering.Annotation
import JsxLowering.Printer.Literal
import JsxLowering.Syntax
import JsxLowering.Text.Blank
import JsxLowering.Text.IdentifierChars
import JsxLowering.Text.Utf8

set_option autoImplicit false

/-!
The output of printing a program. Besides the text it knows where in the text it is,
what is owed to it (a semicolon, a space instead of an indentation), which comments
wait for their token and which places have been linked to places of the source.
-/

namespace JsxLowering

/-- A place in printed text and the byte of the source that it comes from. Columns count
UTF-16 units. A name that the source has otherwise is kept as the source has it. -/
structure Link where
  line : Nat
  column : Nat
  origin : UInt32
  name : Option String
  deriving DecidableEq

structure Output where
  minify : Bool
  source : List Char
  text : String
  size : Nat
  last : Option Char
  line : Nat
  column : Nat
  depth : Nat
  owesSemicolon : Bool
  indentAsSpace : Bool
  statementStart : Option Nat
  arrowStart : Option Nat
  /-- Where the latest value starts that is exported under no name. -/
  exportStart : Option Nat
  numberEnd : Option Nat
  regexEnd : Option Nat
  lastOperator : Option (String × Nat)
  comments : List Comment
  /-- The links, latest first. -/
  links : List Link

def Comment.text (comment : Comment) (source : List Char) : List Char :=
  Text.slice comment.span.start.toNat comment.span.stop.toNat source

def Comment.annotation (comment : Comment) (source : List Char) : Annotation :=
  .ofComment comment.block (comment.text source)

namespace Output

/-- The comments that are to be printed somewhere: those that lead a token, unless they are
about effects. -/
def printable (program : Program) : List Comment :=
  let source := program.source.toList
  program.comments.filter fun comment =>
    comment.attachedTo.isSome && !(comment.annotation source).isAboutEffects

/-- Nothing printed yet. Minified output has no comments. -/
def start (minify : Bool) (program : Program) : Output where
  minify
  source := program.source.toList
  text := ""
  size := 0
  last := none
  line := 0
  column := 0
  depth := 0
  owesSemicolon := false
  indentAsSpace := false
  statementStart := none
  arrowStart := none
  exportStart := none
  numberEnd := none
  regexEnd := none
  lastOperator := none
  comments := if minify then [] else printable program
  links := []

/-- Prints a character. A line feed after a carriage return ends no further line. -/
def putChar (output : Output) (c : Char) : Output :=
  let moved : Nat × Nat :=
    if c == '\n' && output.last == some '\r' then (output.line, 0)
    else if c == '\n' || c == '\r' || c.toNat == 0x2028 || c.toNat == 0x2029 then
      (output.line + 1, 0)
    else (output.line, output.column + Text.utf16Units c)
  { output with
    text := output.text.push c
    size := output.size + 1
    last := some c
    line := moved.1
    column := moved.2 }

def put (output : Output) (text : String) : Output := text.toList.foldl putChar output

def softSpace (output : Output) : Output := if output.minify then output else output.put " "

def softNewline (output : Output) : Output := if output.minify then output else output.put "\n"

def deeper (output : Output) : Output := { output with depth := output.depth + 1 }

def shallower (output : Output) : Output := { output with depth := output.depth - 1 }

def indent (output : Output) : Output :=
  if output.minify then output
  else if output.indentAsSpace then { output.put " " with indentAsSpace := false }
  else output.put (String.ofList (List.replicate output.depth '\t'))

def separateWord (output : Output) : Output :=
  match output.last with
  | some c =>
      if Text.isNamePart c || output.regexEnd = some output.size then output.put " " else output
  | none => output

def runTogether (before after : String) : Bool :=
  (before == "+" && (after == "+" || after == "++")) ||
    (before == "-" && (after == "-" || after == "--")) || (before == "--" && after == ">")

/-- A space, if an operator printed now would run into the one before. No output starts a
comment with `<!--`. -/
def separateOperator (output : Output) (operator : String) : Output :=
  match output.lastOperator with
  | some (before, stop) =>
      let starts := before == "!" && operator == "--" && output.text.endsWith "<!"
      if stop = output.size && (runTogether before operator || starts) then output.put " "
      else output
  | none => output

def symbol (output : Output) (operator : String) : Output :=
  let printed := output.put operator
  { printed with lastOperator := some (operator, printed.size) }

/-- Ends a statement. Minified output waits to see whether another one follows. -/
def endStatement (output : Output) : Output :=
  if output.minify then { output with owesSemicolon := true } else output.put ";\n"

def paySemicolon (output : Output) : Output :=
  if output.owesSemicolon then { output.put ";" with owesSemicolon := false } else output

def oweNothing (output : Output) : Output := { output with owesSemicolon := false }

def linkTo (output : Output) (origin : UInt32) (name : Option String) : Output :=
  if (output.links.head?.map Link.origin) = some origin then output
  else { output with links := ⟨output.line, output.column, origin, name⟩ :: output.links }

def linkStart (output : Output) (span : Span) : Output :=
  if span = .nowhere then output else output.linkTo span.start none

def linkEnd (output : Output) (span : Span) : Output :=
  if span = .nowhere then output else output.linkTo span.stop none

def sourceName (output : Output) (span : Span) (text : String) : Option String :=
  if span.stop.toNat - span.start.toNat = text.utf8ByteSize then none
  else some (String.ofList (Text.slice span.start.toNat span.stop.toNat output.source))

def word (output : Output) (span : Span) (text : String) : Output :=
  ((output.separateWord).linkStart span).put text

def name (output : Output) (name : Name) : Output := output.word name.span name.text

def identifier (output : Output) (name : Name) : Output :=
  let output := output.separateWord
  let linked :=
    if name.span = .nowhere then output
    else output.linkTo name.span.start (output.sourceName name.span name.text)
  linked.put name.text

def plainString (output : Output) (span : Span) (value : String) : Output :=
  let quote := if output.minify then Literal.keyQuote value.toList else .double
  (output.linkStart span).put (Literal.string quote value.toList)

def names (output : Output) : List Name → Output
  | [] => output
  | [last] => output.identifier last
  | first :: rest => ((output.identifier first).put ",").softSpace.names rest

/-! Comments. -/

def isKept (output : Output) (comment : Comment) : Bool :=
  match comment.annotation output.source with
  | .legal => true
  | .documentation => comment.newlineBefore
  | .bundler => comment.newlineBefore
  | _ => false

def commentLines (output : Output) : List (List Char) → Output
  | [] => output
  | line :: rest =>
      let opened := if "/*".toList.isPrefixOf line then output else output.indent
      let printed := opened.put (String.ofList (Text.trimStart line))
      let ended := if "*/".toList.isSuffixOf line then printed else printed.put "\n"
      ended.commentLines rest

def comment (output : Output) (comment : Comment) : Output :=
  let text := comment.text output.source
  if comment.block then
    output.commentLines
      (Text.pieces (fun c => c == '\n' || c == '\r' || c.toNat == 0x2028 || c.toNat == 0x2029)
        text)
  else output.put (String.ofList text)

def openComments (output : Output) (comment : Comment) : Output :=
  if comment.newlineBefore then
    match output.last with
    | none => output
    | some '\n' => output.indent
    | some '\t' => output
    | some _ => (output.put "\n").indent
  else output.indent

def separateComments (output : Output) (comment : Comment) : Output :=
  if comment.newlineBefore then (output.put "\n").indent
  else if comment.annotation output.source = .legal then output.put "\n"
  else output

def closeComments (output : Output) (comment : Comment) : Output :=
  if !comment.block || comment.newlineAfter then output.put "\n"
  else { output with indentAsSpace := true }

def furtherComments (output : Output) (latest : Comment) : List Comment → Output
  | [] => output.closeComments latest
  | next :: rest => ((output.separateComments next).comment next).furtherComments next rest

def waiting (output : Output) (offset : UInt32) : List Comment :=
  output.comments.filter fun comment => comment.attachedTo == some offset

def dismiss (output : Output) (offset : UInt32) : Output :=
  { output with
    comments := output.comments.filter fun comment => comment.attachedTo != some offset }

def kept (output : Output) (offset : UInt32) : List Comment :=
  (output.waiting offset).filter output.isKept

def statementLines (output : Output) : List Comment → Output
  | [] => output
  | first :: rest => ((output.openComments first).comment first).furtherComments first rest

/-- Prints those comments before a statement at an offset that are kept. The others are lost. -/
def statementComments (output : Output) (offset : UInt32) : Output :=
  (output.dismiss offset).statementLines (output.kept offset)

def hasComments (output : Output) (offset : UInt32) : Bool := !(output.waiting offset).isEmpty

def lineComments (output : Output) (offset : UInt32) : Output :=
  let found := output.waiting offset
  let printed := found.foldl (fun output comment => ((output.put "\n").indent).comment comment)
    (output.dismiss offset)
  if found.isEmpty then printed else printed.put "\n"

/-- Prints a piece of a form or of a type. What is there for the checks leaves no trace. -/
def piece (output : Output) : Piece → Output
  | .text text => output.put text
  | .word text => output.separateWord.put text
  | .symbol text => (output.separateOperator text).symbol text
  | .string span value => output.plainString span value
  | .soft text => if output.minify then output else output.put text
  | .gap => output.softSpace
  | .link origin => output.linkTo origin none
  | .name name => output.identifier name
  | .binding name => output.identifier name
  | .property name => output.name name
  | .opening span => ((output.linkStart span).put "\x7b").softNewline.deeper
  | .line => output.paySemicolon.indent
  | .entry origin => (output.paySemicolon.statementComments origin).indent
  | .newline => output.softNewline
  | .deeper => output.deeper
  | .shallower => output.shallower
  | .ending => output.endStatement
  | .closing span => ((output.shallower.indent.linkEnd span).put "\x7d").oweNothing
  | .declares .. => output
  | .exports _ => output
  | .enters _ => output
  | .leaves => output
  | .within _ => output
  | .without => output
  | .jump .. => output
  | .objection .. => output

def pieces (output : Output) (pieces : List Piece) : Output := pieces.foldl piece output

end Output

end JsxLowering
