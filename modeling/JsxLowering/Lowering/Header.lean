import JsxLowering.Log
import JsxLowering.Syntax
import JsxLowering.Text.Alphanumeric
import JsxLowering.Text.Blank
import JsxLowering.Text.Utf8

set_option autoImplicit false

/-!
Header annotations. The block comments before the first statement of a file may say
`@jsx <path>` and `@components <path>`, which replaces the configured targets for
that file. A line counts only if it begins with one of the two words, after the
comment's own punctuation. What is found in a comment is a list of findings, in the
order of the text; the annotations and the warnings are both read off that list.
-/

namespace JsxLowering

namespace Pragma

/-- The pragma that a word is, if it is one. -/
def ofWord? (word : List Char) : Option Pragma :=
  if word = jsx.word.toList then some jsx
  else if word = components.word.toList then some components
  else none

end Pragma

namespace Header

/-- What one use of a pragma amounts to. -/
inductive Finding where
  | path (pragma : Pragma) (path : DottedPath)
  | invalid (pragma : Pragma) (cause : PathError)
  | missing (pragma : Pragma)
  deriving DecidableEq

/-- A character that may stand in an annotation's path. -/
def isPathChar (c : Char) : Bool :=
  Text.isAlphanumeric c || c == '_' || c == '$' || c == '.'

/-- Reads the word after a pragma. The end of the comment may be glued to the path, so the
word is cut at the first character that no path can hold. -/
def findingOf (pragma : Pragma) (word : List Char) : Finding :=
  match DottedPath.parse (String.ofList (word.takeWhile isPathChar)) with
  | .ok path => .path pragma path
  | .error cause => .invalid pragma cause

def scanWords : List (List Char) → List Finding
  | [] => []
  | word :: rest =>
      match Pragma.ofWord? word with
      | none => scanWords rest
      | some pragma =>
          match rest with
          | [] => [.missing pragma]
          | value :: others => findingOf pragma value :: scanWords others

/-- The line without the punctuation that opens or continues a comment. -/
def dropPunctuation : List Char → List Char
  | '/' :: '*' :: '*' :: rest => rest
  | '/' :: '*' :: rest => rest
  | '*' :: rest => rest
  | line => line

/-- What a comment's line says, without the punctuation and white space before it. -/
def lineBody (line : List Char) : List Char :=
  Text.trimStart (dropPunctuation (Text.trimStart line))

def opensWithPragma (body : List Char) : Bool :=
  Pragma.jsx.word.toList.isPrefixOf body || Pragma.components.word.toList.isPrefixOf body

/-- The findings in one line of a comment. -/
def scanLine (line : List Char) : List Finding :=
  if opensWithPragma (lineBody line) then scanWords (Text.words (lineBody line)) else []

def scanComment (text : List Char) : List Finding := (Text.lines text).flatMap scanLine

def Finding.event? : Finding → Option Event
  | path _ _ => none
  | invalid pragma cause => some (.annotationIgnored pragma cause)
  | missing pragma => some (.annotationWithoutPath pragma)

structure Annotations where
  jsx : Option DottedPath
  components : Option DottedPath
  deriving DecidableEq

namespace Annotations

def empty : Annotations := ⟨none, none⟩

/-- The annotations after one more finding; a later path replaces an earlier one. -/
def add (annotations : Annotations) : Finding → Annotations
  | .path .jsx path => ⟨some path, annotations.components⟩
  | .path .components path => ⟨annotations.jsx, some path⟩
  | .invalid _ _ => annotations
  | .missing _ => annotations

/-- The annotations after the text of one more block comment. -/
def scan (annotations : Annotations) (text : List Char) : Annotations :=
  (scanComment text).foldl add annotations

end Annotations

/-- Where the code of a program starts: at its first directive, else its first statement. -/
def firstCode? (program : Program) : Option UInt32 :=
  match program.directives, program.body with
  | directive :: _, _ => some directive.span.start
  | [], statement :: _ => some statement.span.start
  | [], [] => none

/-- Whether a comment ends before the code starts. -/
def precedesCode (program : Program) (comment : Comment) : Bool :=
  match firstCode? program with
  | some start => comment.span.stop ≤ start
  | none => true

/-- The block comments of the header. The header ends at the first comment of either kind
that does not end before the code. -/
def comments (program : Program) : List Comment :=
  (program.comments.takeWhile (precedesCode program)).filter (·.block)

def commentText (program : Program) (comment : Comment) : List Char :=
  Text.slice comment.span.start.toNat comment.span.stop.toNat program.source.toList

def findings (program : Program) : List Finding :=
  (comments program).flatMap fun comment => scanComment (commentText program comment)

def annotations (program : Program) : Annotations :=
  (findings program).foldl Annotations.add Annotations.empty

def warnings (program : Program) : List Event := (findings program).filterMap Finding.event?

end Header

end JsxLowering
