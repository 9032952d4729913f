import JsxLowering.Syntax

set_option autoImplicit false

/-!
The nodes of a program, as one type over all kinds of syntax. `Node.children` gives the
parts of a node in the order in which they are walked: of an element first the
attributes and then the children. All listings of a tree are made from it, and
`Node.induction` is the one induction over trees.

`Node.head` is a node without its parts: its kind and the fields of its own.
-/

namespace JsxLowering

/-- A node of a tree. -/
inductive Node where
  | expr (value : Expr)
  | part (value : Part)
  | item (value : Item)
  | property (value : Property)
  | key (value : Key)
  | functionBody (value : FunctionBody)
  | markup (content : Markup)
  | attr (given : Attribute)
  /-- The value of the attribute with the given span. -/
  | attributeValue (owner : Span) (value : AttributeValue)
  | braced (content : Braced)
  | child (value : Child)
  | statement (value : Statement)
  | declarator (value : Declarator)

@[grind]
def Expr.children : Expr → List Node
  | .identifier .. | .string .. | .number .. | .fraction .. | .verbatim .. | .boolean ..
  | .null _ | .this _ => []
  | .member _ base _ => [.expr base]
  | .index _ base key => [.expr base, .expr key]
  | .call _ callee arguments => .expr callee :: arguments.map .item
  | .array _ elements => elements.map .item
  | .object _ properties => properties.map .property
  | .conditional _ test yes no => [.expr test, .expr yes, .expr no]
  | .binary _ _ left right => [.expr left, .expr right]
  | .logical _ _ left right => [.expr left, .expr right]
  | .unary _ _ argument => [.expr argument]
  | .assign _ _ target value => [.expr target, .expr value]
  | .update _ _ _ target => [.expr target]
  | .sequence _ expressions => expressions.map .expr
  | .parenthesized _ inner => [.expr inner]
  | .arrow _ _ body => [.functionBody body]
  | .marked _ inner => [.expr inner]
  | .typed _ inner _ => [.expr inner]
  | .present _ inner => [.expr inner]
  | .form _ _ _ parts => parts.map .part
  | .markup content => [.markup content]

@[grind]
def Part.children : Part → List Node
  | .piece _ => []
  | .expr _ value => [.expr value]
  | .arguments _ items => items.map .item
  | .body content => [.functionBody content]
  | .block _ statements => statements.map .statement
  | .statement _ content => [.statement content]

@[grind]
def Item.children : Item → List Node
  | .expr value => [.expr value]
  | .spread _ argument => [.expr argument]
  | .hole _ => []

@[grind]
def Property.children : Property → List Node
  | .keyed _ key value _ _ => [.key key, .expr value]
  | .spread _ argument => [.expr argument]
  | .method _ parts => parts.map .part

@[grind]
def Key.children : Key → List Node
  | .name _ => []
  | .expr value => [.expr value]

@[grind]
def FunctionBody.children : FunctionBody → List Node
  | .expr value => [.expr value]
  | .block _ statements => statements.map .statement

@[grind]
def Markup.children : Markup → List Node
  | .element _ _ _ attributes children => attributes.map .attr ++ children.map .child
  | .fragment _ children => children.map .child

@[grind]
def Attribute.children : Attribute → List Node
  | .named span _ value => [.attributeValue span value]
  | .spread _ argument => [.expr argument]

@[grind]
def AttributeValue.children : AttributeValue → List Node
  | .bare | .text _ _ => []
  | .braced _ content => [.braced content]
  | .markup content => [.markup content]

@[grind]
def Braced.children : Braced → List Node
  | .expr value => [.expr value]
  | .empty _ => []

@[grind]
def Child.children : Child → List Node
  | .text _ _ _ => []
  | .markup content => [.markup content]
  | .braced _ content => [.braced content]
  | .spread _ argument => [.expr argument]

@[grind]
def Statement.children : Statement → List Node
  | .empty _ | .directive _ _ => []
  | .expression _ value => [.expr value]
  | .labeled _ _ body => [.statement body]
  | .declaration _ _ declarators => declarators.map .declarator
  | .function _ _ _ _ body => body.map .statement
  | .ret _ argument => argument.toList.map .expr
  | .block _ body => body.map .statement
  | .ifElse _ test yes no => .expr test :: .statement yes :: no.toList.map .statement
  | .exportDeclaration _ inner => [.statement inner]
  | .exportDefault _ value => [.expr value]
  | .marked inner => [.statement inner]
  | .form _ _ parts => parts.map .part

@[grind]
def Declarator.children : Declarator → List Node
  | .mk _ _ _ init => init.toList.map .expr

namespace Node

/-- The parts of a node, in the order in which they are walked. -/
@[grind]
def children : Node → List Node
  | expr value => value.children
  | part value => value.children
  | item value => value.children
  | property value => value.children
  | key value => value.children
  | functionBody value => value.children
  | markup content => content.children
  | attr given => given.children
  | attributeValue _ value => value.children
  | braced content => content.children
  | child value => value.children
  | statement value => value.children
  | declarator value => value.children

section

attribute [local grind →] List.sizeOf_lt_of_mem

theorem sizeOf_lt_of_mem_children {parent node : Node} (membership : node ∈ parent.children) :
    sizeOf node < sizeOf parent := by
  cases parent with
  | expr value => cases value <;> grind
  | part value => cases value <;> grind
  | item value => cases value <;> grind
  | property value => cases value <;> grind
  | key value => cases value <;> grind
  | functionBody value => cases value <;> grind
  | markup content => cases content <;> grind
  | attr given => cases given <;> grind
  | attributeValue owner value => cases value <;> grind
  | braced content => cases content <;> grind
  | child value => cases value <;> grind
  | statement value => cases value <;> grind
  | declarator value =>
      cases value
      grind

end

/-- What holds of a node whenever it holds of its parts holds of every node. -/
@[elab_as_elim]
theorem induction {motive : Node → Prop}
    (step : ∀ node, (∀ child ∈ node.children, motive child) → motive node) (node : Node) :
    motive node :=
  step node fun child _ => induction step child
termination_by sizeOf node
decreasing_by exact sizeOf_lt_of_mem_children ‹_›

/-- A node and everything below it, each node before its parts. -/
def preorder (node : Node) : List Node :=
  node :: node.children.attach.flatMap fun child => child.1.preorder
termination_by sizeOf node
decreasing_by exact sizeOf_lt_of_mem_children child.2

theorem preorder_eq (node : Node) : node.preorder = node :: node.children.flatMap preorder := by
  rw [preorder]
  simp

/-- Whether the node is markup or a part of markup that is no expression. -/
def isMarkup : Node → Bool
  | expr (.markup _) => true
  | markup _ | attr _ | attributeValue _ _ | braced _ | child _ => true
  | _ => false

end Node

namespace Expr

/-- Stands in the place of an expression that has been cut out. -/
def cut : Expr := .null .nowhere

def head : Expr → Expr
  | .identifier span name bound => .identifier span name bound
  | .string span value => .string span value
  | .number span value => .number span value
  | .fraction span value => .fraction span value
  | .verbatim span text => .verbatim span text
  | .boolean span value => .boolean span value
  | .null span => .null span
  | .this span => .this span
  | .member span _ property => .member span cut property
  | .index span _ _ => .index span cut cut
  | .call span _ _ => .call span cut []
  | .array span _ => .array span []
  | .object span _ => .object span []
  | .conditional span _ _ _ => .conditional span cut cut cut
  | .binary span operator _ _ => .binary span operator cut cut
  | .logical span operator _ _ => .logical span operator cut cut
  | .unary span operator _ => .unary span operator cut
  | .assign span operator _ _ => .assign span operator cut cut
  | .update span operator before _ => .update span operator before cut
  | .sequence span _ => .sequence span []
  | .parenthesized span _ => .parenthesized span cut
  | .arrow span parameters _ => .arrow span parameters (.expr cut)
  | .marked mark _ => .marked mark cut
  | .typed span _ type => .typed span cut type
  | .present span _ => .present span cut
  | .form span strength guarded _ => .form span strength guarded []
  | .markup content => .markup (.fragment content.span [])

end Expr

def Part.head : Part → Part
  | .piece content => .piece content
  | .expr floor _ => .expr floor .cut
  | .arguments span _ => .arguments span []
  | .body _ => .body (.expr .cut)
  | .block span _ => .block span []
  | .statement single _ => .statement single (.empty .nowhere)

def Item.head : Item → Item
  | .expr _ => .expr .cut
  | .spread span _ => .spread span .cut
  | .hole span => .hole span

def Key.head : Key → Key
  | .name word => .name word
  | .expr _ => .expr .cut

def Property.head : Property → Property
  | .keyed span _ _ shorthand computed => .keyed span (.expr .cut) .cut shorthand computed
  | .spread span _ => .spread span .cut
  | .method span _ => .method span []

def FunctionBody.head : FunctionBody → FunctionBody
  | .expr _ => .expr .cut
  | .block span _ => .block span []

def Markup.head : Markup → Markup
  | .element span opening tag _ _ => .element span opening tag [] []
  | .fragment span _ => .fragment span []

def Attribute.head : Attribute → Attribute
  | .named span name _ => .named span name .bare
  | .spread span _ => .spread span .cut

def AttributeValue.head : AttributeValue → AttributeValue
  | .bare => .bare
  | .text span value => .text span value
  | .braced span _ => .braced span (.expr .cut)
  | .markup content => .markup (.fragment content.span [])

def Braced.head : Braced → Braced
  | .expr _ => .expr .cut
  | .empty span => .empty span

def Child.head : Child → Child
  | .text span value raw => .text span value raw
  | .markup content => .markup (.fragment content.span [])
  | .braced span _ => .braced span (.expr .cut)
  | .spread span _ => .spread span .cut

def Statement.head : Statement → Statement
  | .empty span => .empty span
  | .directive span text => .directive span text
  | .expression span _ => .expression span .cut
  | .labeled span label _ => .labeled span label (.empty .nowhere)
  | .declaration span kind _ => .declaration span kind []
  | .function span name parameters bodySpan _ => .function span name parameters bodySpan []
  | .ret span _ => .ret span none
  | .block span _ => .block span []
  | .ifElse span _ _ _ => .ifElse span .cut (.empty .nowhere) none
  | .exportDeclaration span _ => .exportDeclaration span (.empty .nowhere)
  | .exportDefault span _ => .exportDefault span .cut
  | .marked _ => .marked (.empty .nowhere)
  | .form span declares _ => .form span declares []

def Declarator.head : Declarator → Declarator
  | .mk span name type _ => .mk span name type none

namespace Node

/-- A node without its parts. -/
def head : Node → Node
  | expr value => expr value.head
  | part value => part value.head
  | item value => item value.head
  | property value => property value.head
  | key value => key value.head
  | functionBody value => functionBody value.head
  | markup content => markup content.head
  | attr given => attr given.head
  | attributeValue owner value => attributeValue owner value.head
  | braced content => braced content.head
  | child value => child value.head
  | statement value => statement value.head
  | declarator value => declarator value.head

@[simp]
theorem isMarkup_head (node : Node) : node.head.isMarkup = node.isMarkup := by
  cases node with
  | expr value => cases value <;> rfl
  | _ => rfl

end Node

namespace Program

/-- All nodes of a program, each before its parts. -/
def nodes (program : Program) : List Node :=
  program.body.flatMap fun statement => (Node.statement statement).preorder

/-- A program is free of markup if none of its nodes belongs to any. -/
def MarkupFree (program : Program) : Prop := ∀ node ∈ program.nodes, node.isMarkup = false

end Program

end JsxLowering
