import JsxLowering.Source.Numeral

set_option autoImplicit false

/-!
The tokens of source text.
-/

namespace JsxLowering.Source

/-- What a token is. A run of characters that makes no token is `unknown`. -/
inductive Kind where
  | endOfFile
  | identifier (name : String)
  | hidden (name : String)
  | keyword (word : String)
  | number (form : NumeralForm) (value : Numeral)
  /-- A string, which is not `whole` if it holds half of a pair. -/
  | string (value : String) (whole : Bool)
  | template (text : String) (closed : Bool)
  | templateRest (text : String) (closed : Bool)
  | text (value : String)
  | punctuator (symbol : String)
  | unknown
  deriving DecidableEq

def NumeralForm.describe : NumeralForm → String
  | decimal => "decimal"
  | float => "float"
  | exponential => "exponential"
  | binary => "binary"
  | octal => "octal"
  | hexadecimal => "hexadecimal"

namespace Kind

def describe : Kind → String
  | endOfFile => "EOF"
  | identifier _ => "Identifier"
  | hidden _ => "#identifier"
  | keyword word => word
  | number form _ => form.describe
  | string .. => "string"
  | template _ closed => if closed then "$\x7b\x7d" else "$\x7b"
  | templateRest _ closed => if closed then "\x7d" else "$\x7bexpr\x7d"
  | text _ => "jsx"
  | punctuator symbol => symbol
  | unknown => "Unknown"

def word? : Kind → Option String
  | identifier name => some name
  | keyword word => some word
  | _ => none

end Kind

structure Token where
  kind : Kind
  start : Nat
  stop : Nat
  afterNewline : Bool
  /-- Whether a comment before it marks a call without effects. -/
  marked : Bool
  /-- Whether a comment before it marks a function without effects. -/
  markedFunction : Bool
  escaped : Bool := false

/-- The words that can never be identifiers. -/
def reservedWords : List String :=
  ["break", "case", "catch", "class", "const", "continue", "debugger", "default",
   "delete", "do", "else", "enum", "export", "extends", "false", "finally", "for", "function",
   "if", "import", "in", "instanceof", "new", "null", "return", "super", "switch", "this",
   "throw", "true", "try", "typeof", "var", "void", "while", "with"]

/-- The words that mean something special in some places only. -/
def contextualWords : List String :=
  ["abstract", "accessor", "any", "as", "assert", "asserts", "async", "await", "bigint",
   "boolean", "constructor", "declare", "defer", "from", "get", "global", "implements", "infer",
   "interface", "intrinsic", "is", "keyof", "let", "meta", "module", "namespace", "never",
   "number", "object", "of", "out", "override", "package", "private", "protected", "public",
   "readonly", "require", "satisfies", "set", "source", "static", "string", "symbol", "target",
   "type", "undefined", "unique", "unknown", "using", "yield"]

def Kind.ofWord (word : String) : Kind :=
  if reservedWords.contains word || contextualWords.contains word then .keyword word
  else .identifier word

/-- The punctuators, each before those it starts with. -/
def punctuators : List String :=
  ["...", "===", "!==", "**=", "<<=", "&&=", "||=", "??=", "=>", "==", "!=", "<=", "<<",
   "&&", "||", "??", "?.", "**", "++", "--", "+=", "-=", "*=", "/=", "%=", "&=", "|=", "^=",
   "\x7b", "\x7d", "(", ")", "[", "]", ";", ",", "<", ">", "+", "-", "*", "/", "%", "&", "|",
   "^", "!", "~", "?", ":", "=", ".", "@"]

/-- The punctuator that the text starts with. A point before a digit belongs to the digit. -/
def punctuatorAt? (text : List Char) : Option String :=
  match text with
  | '?' :: '.' :: c :: _ =>
      some (if Text.isAsciiDigit c then "?" else "?.")
  | _ => punctuators.find? fun symbol => symbol.toList.isPrefixOf text

end JsxLowering.Source
