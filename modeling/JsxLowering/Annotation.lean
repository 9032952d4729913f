import JsxLowering.Text.Blank

set_option autoImplicit false

/-!
What a comment says to tools. A comment that starts with an exclamation mark or that
mentions a licence is to be kept; one that starts with a second star documents what
follows; and some comments speak to bundlers.
-/

namespace JsxLowering

inductive Annotation where
  | none
  | legal
  | documentation
  | bundler
  | callWithoutEffects
  | functionWithoutEffects
  deriving DecidableEq

namespace Annotation

def startsWith (word : String) (text : List Char) : Bool := word.toList.isPrefixOf text

def isAsciiBlank (c : Char) : Bool :=
  c == ' ' || c == '\t' || c == '\n' || c == '\r' || c == '\x0c'

def mentionsLicence (text : List Char) : Bool :=
  Text.mentions "@license".toList text || Text.mentions "@preserve".toList text

def ofTag (text : List Char) : Annotation :=
  if startsWith "__PURE__" text then callWithoutEffects
  else if startsWith "__NO_SIDE_EFFECTS__" text then functionWithoutEffects
  else none

def ofWord : List Char → Annotation
  | '@' :: text =>
      if startsWith "vite" text then bundler
      else if startsWith "license" text || startsWith "preserve" text then legal
      else ofTag text
  | '#' :: text => ofTag text
  | text =>
      if startsWith "webpack" text then bundler
      else if mentionsLicence text then legal
      else none

/-- What a comment is for, by the text inside it. A block of stars is no documentation. -/
def ofContent (block : Bool) : List Char → Annotation
  | [] => none
  | first :: rest =>
      if first == '!' then legal
      else if first == '*' && block then
        if rest.all (· == '*') then none else documentation
      else ofWord ((first :: rest).dropWhile isAsciiBlank)

def ofComment (block : Bool) (text : List Char) : Annotation :=
  ofContent block (if block then (text.drop 2).dropLast.dropLast else text.drop 2)

/-- Whether the annotation is about what the code does, so that it moves with the code. -/
def isAboutEffects : Annotation → Bool
  | callWithoutEffects => true
  | functionWithoutEffects => true
  | _ => false

end Annotation

end JsxLowering
