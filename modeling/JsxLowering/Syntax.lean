import JsxLowering.Decimal
import JsxLowering.Span
import JsxLowering.Strength

set_option autoImplicit false

/-!
Programs with markup. One family of types holds a program before and after its
markup has been lowered: an expression may be a piece of markup, and markup holds
expressions in its attribute values and children.

Every node carries its span. The parts of a markup name are kept as they are
written; no rule of the language is imposed on them here.

What lowering has nothing to say about is kept as a form: the parts that it is printed
from, in their order, with the expressions and statements among them.
-/

namespace JsxLowering

/-- A word that is no expression: a binding, a property or a part of a markup name. -/
structure Name where
  span : Span
  text : String
  deriving DecidableEq

inductive TagObject where
  | reference (name : Name)
  | this (span : Span)
  | member (span : Span) (object : TagObject) (property : Name)
  deriving DecidableEq

/-- The name in an opening tag. A plain name is a `reference` where it names a binding,
and an `intrinsic` where it does not. -/
inductive Tag where
  | intrinsic (name : Name)
  | reference (name : Name)
  | namespaced (span : Span) (space name : Name)
  | member (span : Span) (object : TagObject) (property : Name)
  | this (span : Span)
  deriving DecidableEq

inductive AttributeName where
  | plain (name : Name)
  | namespaced (span : Span) (space name : Name)
  deriving DecidableEq

inductive VariableKind where
  | constant
  | lexical
  | hoisted
  deriving DecidableEq

inductive Binding where
  | lexical
  | function
  | hoisted
  | parameter
  deriving DecidableEq

namespace VariableKind

def word : VariableKind → String
  | constant => "const"
  | lexical => "let"
  | hoisted => "var"

def binding : VariableKind → Binding
  | hoisted => .hoisted
  | _ => .lexical

end VariableKind

inductive ScopeKind where
  | file
  | function
  | arrow
  | block
  deriving DecidableEq

/-- What a jump may lead out of: a function, a loop, a choice between cases, or a statement with
a label, which may be that of a loop. -/
inductive Surrounding where
  | function
  | loop
  | choice
  | label (name : String) (loops : Bool)
  deriving DecidableEq

/-- A piece of a form or of a type that holds no expression. Most are printed; the last ones
are there for the checks. -/
inductive Piece where
  | text (text : String)
  /-- A word, which is kept apart from the one before it. -/
  | word (text : String)
  /-- An operator that is no word. -/
  | symbol (text : String)
  | string (span : Span) (value : String)
  | soft (text : String)
  | gap
  | link (origin : UInt32)
  | name (name : Name)
  | binding (name : Name)
  | property (name : Name)
  | opening (span : Span)
  | line
  /-- The start of a line with a member at a place in the source, after the comments before it. -/
  | entry (origin : UInt32)
  | newline
  | deeper
  | shallower
  | ending
  | closing (span : Span)
  | declares (binding : Binding) (name : Name)
  | exports (name : Name)
  | enters (kind : ScopeKind)
  | leaves
  | within (surrounding : Surrounding)
  | without
  | jump (span : Span) (goesOn : Bool) (label : Option Name)
  | objection (message : String) (span : Span)
  deriving DecidableEq

inductive Mark where
  | call
  | function
  deriving DecidableEq

mutual

/-- Expressions. An identifier is `bound` where scope analysis has linked it to a
binding, which holds of those that the source wrote and not of those that lowering
made up. -/
inductive Expr where
  | identifier (span : Span) (name : String) (bound : Bool)
  | string (span : Span) (value : String)
  | number (span : Span) (value : Nat)
  /-- A number that is not whole. -/
  | fraction (span : Span) (value : Decimal)
  /-- What is printed as it stands, such as a big integer or a pattern. -/
  | verbatim (span : Span) (text : String)
  | boolean (span : Span) (value : Bool)
  | null (span : Span)
  | this (span : Span)
  | member (span : Span) (object : Expr) (property : Name)
  | index (span : Span) (object : Expr) (key : Expr)
  | call (span : Span) (callee : Expr) (arguments : List Item)
  | array (span : Span) (elements : List Item)
  | object (span : Span) (properties : List Property)
  | conditional (span : Span) (test yes no : Expr)
  | binary (span : Span) (operator : String) (left right : Expr)
  | logical (span : Span) (operator : String) (left right : Expr)
  | unary (span : Span) (operator : String) (argument : Expr)
  | assign (span : Span) (operator : String) (target value : Expr)
  /-- A step up or down, with the operator before or after its target. -/
  | update (span : Span) (operator : String) (before : Bool) (target : Expr)
  | sequence (span : Span) (expressions : List Expr)
  | parenthesized (span : Span) (inner : Expr)
  | arrow (span : Span) (parameters : List Name) (body : FunctionBody)
  /-- A call or function that a comment before it marks as free of effects. -/
  | marked (mark : Mark) (inner : Expr)
  /-- An expression asserted to have a type, `x as any`. -/
  | typed (span : Span) (inner : Expr) (type : List Piece)
  /-- An expression asserted to be present, `x!`. -/
  | present (span : Span) (inner : Expr)
  /-- An expression of any other form. It is `guarded` if it would be read as something else
  where a statement starts. -/
  | form (span : Span) (strength : Strength) (guarded : Bool) (parts : List Part)
  | markup (content : Markup)

inductive Part where
  | piece (piece : Piece)
  | expr (floor : Strength) (value : Expr)
  | arguments (span : Span) (items : List Item)
  | body (content : FunctionBody)
  | block (span : Span) (statements : List Statement)
  /-- A statement, which may be all that the form holds. -/
  | statement (single : Bool) (content : Statement)

/-- A member of an argument list or of an array. -/
inductive Item where
  | expr (value : Expr)
  | spread (span : Span) (argument : Expr)
  | hole (span : Span)

inductive Property where
  | keyed (span : Span) (key : Key) (value : Expr) (shorthand computed : Bool)
  | spread (span : Span) (argument : Expr)
  | method (span : Span) (parts : List Part)

inductive Key where
  | name (name : Name)
  | expr (value : Expr)

/-- What a function evaluates: an expression, or the statements in its braces. -/
inductive FunctionBody where
  | expr (value : Expr)
  | block (span : Span) (statements : List Statement)

/-- An element, with the span of its opening tag, or a fragment. -/
inductive Markup where
  | element (span opening : Span) (tag : Tag) (attributes : List Attribute)
      (children : List Child)
  | fragment (span : Span) (children : List Child)

inductive Attribute where
  | named (span : Span) (name : AttributeName) (value : AttributeValue)
  | spread (span : Span) (argument : Expr)

inductive AttributeValue where
  | bare
  | text (span : Span) (value : String)
  | braced (span : Span) (content : Braced)
  | markup (content : Markup)

/-- What stands between braces: an expression, or nothing but comments. -/
inductive Braced where
  | expr (value : Expr)
  | empty (span : Span)

/-- A child of an element or fragment. The raw text is left out where it is the value. -/
inductive Child where
  | text (span : Span) (value : String) (raw : Option String)
  | markup (content : Markup)
  | braced (span : Span) (content : Braced)
  | spread (span : Span) (argument : Expr)

inductive Statement where
  | empty (span : Span)
  /-- A string at the start of a function's body, as it stands between its quotes. -/
  | directive (span : Span) (text : String)
  | expression (span : Span) (value : Expr)
  | labeled (span : Span) (label : Name) (body : Statement)
  | declaration (span : Span) (kind : VariableKind) (declarators : List Declarator)
  | function (span : Span) (name : Name) (parameters : List Name) (bodySpan : Span)
      (body : List Statement)
  | ret (span : Span) (argument : Option Expr)
  | block (span : Span) (body : List Statement)
  | ifElse (span : Span) (test : Expr) (yes : Statement) (no : Option Statement)
  | exportDeclaration (span : Span) (declaration : Statement)
  | exportDefault (span : Span) (value : Expr)
  /-- A function that a comment before it marks as free of effects. -/
  | marked (declaration : Statement)
  /-- A statement of any other form, which may be a declaration. -/
  | form (span : Span) (declares : Bool) (parts : List Part)

inductive Declarator where
  | mk (span : Span) (name : Name) (type : List Piece) (init : Option Expr)

end

/-- A directive, with its text as it stands between the quotes. -/
structure Directive where
  span : Span
  value : String
  deriving DecidableEq

/-- A comment: what kind it is, where it stands, and for printing the token it belongs
to and the line breaks around it. -/
structure Comment where
  span : Span
  block : Bool
  /-- The start of the token that the comment leads, if it leads one. -/
  attachedTo : Option UInt32 := none
  newlineBefore : Bool := false
  newlineAfter : Bool := false
  deriving DecidableEq

structure Program where
  source : String
  comments : List Comment
  directives : List Directive
  body : List Statement
  /-- The first line after its `#!`, if it starts with that. -/
  interpreter : Option String := none

namespace Part

def text (text : String) : Part := piece (.text text)

/-- A word that is kept apart from the one before it. -/
def word (text : String) : Part := piece (.word text)

def gap : Part := piece .gap

/-- Puts a comma between parts. -/
def separated : List (List Part) → List Part
  | [] => []
  | [last] => last
  | first :: rest => first ++ text "," :: gap :: separated rest

end Part

namespace Markup

def span : Markup → Span
  | element span .. => span
  | fragment span _ => span

end Markup

namespace Expr

def span : Expr → Span
  | identifier span .. => span
  | string span _ => span
  | number span _ => span
  | fraction span _ => span
  | verbatim span _ => span
  | boolean span _ => span
  | null span => span
  | this span => span
  | member span .. => span
  | index span .. => span
  | call span .. => span
  | array span _ => span
  | object span _ => span
  | conditional span .. => span
  | binary span .. => span
  | logical span .. => span
  | unary span .. => span
  | assign span .. => span
  | update span .. => span
  | sequence span _ => span
  | parenthesized span _ => span
  | arrow span .. => span
  | marked _ inner => inner.span
  | form span .. => span
  | typed span .. => span
  | present span _ => span
  | markup content => content.span

/-- The expression without parentheses around it. -/
def bare : Expr → Expr
  | parenthesized _ inner => inner.bare
  | value => value

end Expr

namespace Item

def span : Item → Span
  | expr value => value.span
  | spread span _ => span
  | hole span => span

end Item

namespace Statement

def span : Statement → Span
  | empty span => span
  | directive span _ => span
  | expression span _ => span
  | labeled span .. => span
  | declaration span .. => span
  | function span .. => span
  | ret span _ => span
  | block span _ => span
  | ifElse span .. => span
  | exportDeclaration span _ => span
  | exportDefault span _ => span
  | marked inner => inner.span
  | form span .. => span

def isFunction : Statement → Bool
  | function .. => true
  | marked inner => inner.isFunction
  | form _ _ parts => parts.any fun part =>
      match part with
      | .piece (.declares .function _) => true
      | _ => false
  | _ => false

end Statement

namespace TagObject

def span : TagObject → Span
  | reference name => name.span
  | this span => span
  | member span .. => span

end TagObject

namespace Tag

def span : Tag → Span
  | intrinsic name => name.span
  | reference name => name.span
  | namespaced span .. => span
  | member span .. => span
  | this span => span

end Tag

end JsxLowering
