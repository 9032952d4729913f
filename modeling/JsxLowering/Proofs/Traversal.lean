import JsxLowering.Syntax

set_option autoImplicit false

/-!
Walking a program depth first. A visitor is told when the parts of markup are entered
and left, and when an expression is left. Every node is entered and left once, its parts
are walked in source order in between, and what a visitor leaves in the place of a node
is what the nodes around it are left with.

An expression in braces is left twice, first as an expression and then as what the braces
hold. Markup that is a child or an attribute's value is no expression.
-/

namespace JsxLowering

/-- What is done at the nodes of a walk. -/
structure Visitor (m : Type → Type) where
  enterElement : m Unit
  exitElement (span : Span) : m Unit
  enterFragment : m Unit
  exitFragment (span : Span) : m Unit
  enterOpening (tag : Tag) : m Unit
  exitOpening (span : Span) : m Unit
  exitAttribute : Attribute → m Attribute
  exitChild : Child → m Child
  exitBraced : Braced → m Braced
  exitExpression : Expr → m Expr

variable {m : Type → Type} [Monad m]

mutual

/-- Walks an expression. -/
def Expr.walk (visitor : Visitor m) : Expr → m Expr
  | .identifier span name bound => visitor.exitExpression (.identifier span name bound)
  | .string span value => visitor.exitExpression (.string span value)
  | .number span value => visitor.exitExpression (.number span value)
  | .fraction span value => visitor.exitExpression (.fraction span value)
  | .verbatim span text => visitor.exitExpression (.verbatim span text)
  | .boolean span value => visitor.exitExpression (.boolean span value)
  | .null span => visitor.exitExpression (.null span)
  | .this span => visitor.exitExpression (.this span)
  | .member span object property => do
      let object ← object.walk visitor
      visitor.exitExpression (.member span object property)
  | .index span object key => do
      let object ← object.walk visitor
      let key ← key.walk visitor
      visitor.exitExpression (.index span object key)
  | .call span callee arguments => do
      let callee ← callee.walk visitor
      let arguments ← walkItems visitor arguments
      visitor.exitExpression (.call span callee arguments)
  | .array span elements => do
      let elements ← walkItems visitor elements
      visitor.exitExpression (.array span elements)
  | .object span properties => do
      let properties ← walkProperties visitor properties
      visitor.exitExpression (.object span properties)
  | .conditional span test yes no => do
      let test ← test.walk visitor
      let yes ← yes.walk visitor
      let no ← no.walk visitor
      visitor.exitExpression (.conditional span test yes no)
  | .binary span operator left right => do
      let left ← left.walk visitor
      let right ← right.walk visitor
      visitor.exitExpression (.binary span operator left right)
  | .logical span operator left right => do
      let left ← left.walk visitor
      let right ← right.walk visitor
      visitor.exitExpression (.logical span operator left right)
  | .unary span operator argument => do
      let argument ← argument.walk visitor
      visitor.exitExpression (.unary span operator argument)
  | .assign span operator target value => do
      let target ← target.walk visitor
      let value ← value.walk visitor
      visitor.exitExpression (.assign span operator target value)
  | .update span operator before target => do
      let target ← target.walk visitor
      visitor.exitExpression (.update span operator before target)
  | .sequence span expressions => do
      let expressions ← walkExprs visitor expressions
      visitor.exitExpression (.sequence span expressions)
  | .parenthesized span inner => do
      let inner ← inner.walk visitor
      visitor.exitExpression (.parenthesized span inner)
  | .arrow span parameters body => do
      let body ← body.walk visitor
      visitor.exitExpression (.arrow span parameters body)
  | .marked mark inner => do
      let inner ← inner.walk visitor
      visitor.exitExpression (.marked mark inner)
  | .typed span inner type => do
      let inner ← inner.walk visitor
      visitor.exitExpression (.typed span inner type)
  | .present span inner => do
      let inner ← inner.walk visitor
      visitor.exitExpression (.present span inner)
  | .form span strength guarded parts => do
      let parts ← walkParts visitor parts
      visitor.exitExpression (.form span strength guarded parts)
  | .markup content => do
      let content ← content.walk visitor
      visitor.exitExpression (.markup content)

def Part.walk (visitor : Visitor m) : Part → m Part
  | .piece piece => pure (.piece piece)
  | .expr floor value => do return .expr floor (← value.walk visitor)
  | .arguments span items => do return .arguments span (← walkItems visitor items)
  | .body content => do return .body (← content.walk visitor)
  | .block span statements => do return .block span (← walkStatements visitor statements)
  | .statement single content => do return .statement single (← content.walk visitor)

def walkParts (visitor : Visitor m) : List Part → m (List Part)
  | [] => pure []
  | part :: rest => do
      let part ← part.walk visitor
      return part :: (← walkParts visitor rest)

def walkExprs (visitor : Visitor m) : List Expr → m (List Expr)
  | [] => pure []
  | value :: rest => do
      let value ← value.walk visitor
      return value :: (← walkExprs visitor rest)

def Item.walk (visitor : Visitor m) : Item → m Item
  | .expr value => do return .expr (← value.walk visitor)
  | .spread span argument => do return .spread span (← argument.walk visitor)
  | .hole span => pure (.hole span)

def walkItems (visitor : Visitor m) : List Item → m (List Item)
  | [] => pure []
  | item :: rest => do
      let item ← item.walk visitor
      return item :: (← walkItems visitor rest)

def Key.walk (visitor : Visitor m) : Key → m Key
  | .name name => pure (.name name)
  | .expr value => do return .expr (← value.walk visitor)

def Property.walk (visitor : Visitor m) : Property → m Property
  | .keyed span key value shorthand computed => do
      let key ← key.walk visitor
      return .keyed span key (← value.walk visitor) shorthand computed
  | .spread span argument => do return .spread span (← argument.walk visitor)
  | .method span parts => do return .method span (← walkParts visitor parts)

def walkProperties (visitor : Visitor m) : List Property → m (List Property)
  | [] => pure []
  | property :: rest => do
      let property ← property.walk visitor
      return property :: (← walkProperties visitor rest)

def FunctionBody.walk (visitor : Visitor m) : FunctionBody → m FunctionBody
  | .expr value => do return .expr (← value.walk visitor)
  | .block span statements => do return .block span (← walkStatements visitor statements)

/-- Walks a piece of markup: of an element first the opening tag with the attributes, then
the children. -/
def Markup.walk (visitor : Visitor m) : Markup → m Markup
  | .element span opening tag attributes children => do
      visitor.enterElement
      visitor.enterOpening tag
      let attributes ← walkAttributes visitor attributes
      visitor.exitOpening opening
      let children ← walkChildren visitor children
      visitor.exitElement span
      return .element span opening tag attributes children
  | .fragment span children => do
      visitor.enterFragment
      let children ← walkChildren visitor children
      visitor.exitFragment span
      return .fragment span children

def Attribute.walk (visitor : Visitor m) : Attribute → m Attribute
  | .named span name value => do
      let value ← value.walk visitor
      visitor.exitAttribute (.named span name value)
  | .spread span argument => do
      let argument ← argument.walk visitor
      visitor.exitAttribute (.spread span argument)

def walkAttributes (visitor : Visitor m) : List Attribute → m (List Attribute)
  | [] => pure []
  | given :: rest => do
      let given ← given.walk visitor
      return given :: (← walkAttributes visitor rest)

def AttributeValue.walk (visitor : Visitor m) : AttributeValue → m AttributeValue
  | .bare => pure .bare
  | .text span value => pure (.text span value)
  | .braced span content => do return .braced span (← content.walk visitor)
  | .markup content => do return .markup (← content.walk visitor)

def Braced.walk (visitor : Visitor m) : Braced → m Braced
  | .expr value => do
      let value ← value.walk visitor
      visitor.exitBraced (.expr value)
  | .empty span => visitor.exitBraced (.empty span)

def Child.walk (visitor : Visitor m) : Child → m Child
  | .text span value raw => visitor.exitChild (.text span value raw)
  | .markup content => do
      let content ← content.walk visitor
      visitor.exitChild (.markup content)
  | .braced span content => do
      let content ← content.walk visitor
      visitor.exitChild (.braced span content)
  | .spread span argument => do
      let argument ← argument.walk visitor
      visitor.exitChild (.spread span argument)

def walkChildren (visitor : Visitor m) : List Child → m (List Child)
  | [] => pure []
  | child :: rest => do
      let child ← child.walk visitor
      return child :: (← walkChildren visitor rest)

/-- Walks a statement. -/
def Statement.walk (visitor : Visitor m) : Statement → m Statement
  | .empty span => pure (.empty span)
  | .directive span text => pure (.directive span text)
  | .expression span value => do return .expression span (← value.walk visitor)
  | .labeled span label body => do return .labeled span label (← body.walk visitor)
  | .declaration span kind declarators => do
      return .declaration span kind (← walkDeclarators visitor declarators)
  | .function span name parameters bodySpan body => do
      return .function span name parameters bodySpan (← walkStatements visitor body)
  | .ret span argument => do return .ret span (← walkOptional visitor argument)
  | .block span body => do return .block span (← walkStatements visitor body)
  | .ifElse span test yes no => do
      let test ← test.walk visitor
      let yes ← yes.walk visitor
      return .ifElse span test yes (← walkAlternative visitor no)
  | .exportDeclaration span declaration => do
      return .exportDeclaration span (← declaration.walk visitor)
  | .exportDefault span value => do return .exportDefault span (← value.walk visitor)
  | .marked inner => do return .marked (← inner.walk visitor)
  | .form span declares parts => do return .form span declares (← walkParts visitor parts)

def walkStatements (visitor : Visitor m) : List Statement → m (List Statement)
  | [] => pure []
  | statement :: rest => do
      let statement ← statement.walk visitor
      return statement :: (← walkStatements visitor rest)

def walkOptional (visitor : Visitor m) : Option Expr → m (Option Expr)
  | none => pure none
  | some value => do return some (← value.walk visitor)

def walkAlternative (visitor : Visitor m) : Option Statement → m (Option Statement)
  | none => pure none
  | some statement => do return some (← statement.walk visitor)

def Declarator.walk (visitor : Visitor m) : Declarator → m Declarator
  | .mk span name type init => do return .mk span name type (← walkOptional visitor init)

def walkDeclarators (visitor : Visitor m) : List Declarator → m (List Declarator)
  | [] => pure []
  | declarator :: rest => do
      let declarator ← declarator.walk visitor
      return declarator :: (← walkDeclarators visitor rest)

end

end JsxLowering
