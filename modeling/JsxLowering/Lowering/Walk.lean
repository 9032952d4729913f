import JsxLowering.Entity
import JsxLowering.Lowering.Attribute
import JsxLowering.Lowering.Child
import JsxLowering.Lowering.Target

set_option autoImplicit false

/-!
The lowering of a program, by recursion on its tree. What is no markup keeps its
shape and its spans, with the markup inside it lowered. An element becomes a call
and a fragment an array.

The parts of a node are lowered in source order: of an element first the tag, then
the attributes, then the children. An element or fragment is recorded after
everything inside it.
-/

namespace JsxLowering

def props (mode : Mode) (span : Span) (entries : List Entry) : Expr :=
  match mode with
  | .grouped => groupedProps span entries
  | _ => flatProps span entries

/-- The children argument, which is left out where there are no children. -/
def childrenArgument (span : Span) (children : List LoweredChild) : List Item :=
  if (LoweredChild.normalize children).isEmpty then []
  else [.expr (LoweredChild.toArray span children)]

def elementCall (mode : Mode) (span opening : Span) (head : CallHead) (entries : List Entry)
    (children : List LoweredChild) : Expr :=
  .call span head.callee
    (head.leading ++ .expr (props mode opening entries) :: childrenArgument span children)

/-- A text child with its character references decoded. An empty text is no child. -/
def textChildren (span : Span) (value : String) (raw : Option String) : List LoweredChild :=
  if value = "" then []
  else [.text ⟨span, Entity.decode value.toList, (raw.getD value).toList⟩]

mutual

def Expr.lower (targets : Targets) : Expr → Report Expr
  | .identifier span name bound => pure (.identifier span name bound)
  | .string span value => pure (.string span value)
  | .number span value => pure (.number span value)
  | .fraction span value => pure (.fraction span value)
  | .verbatim span text => pure (.verbatim span text)
  | .boolean span value => pure (.boolean span value)
  | .null span => pure (.null span)
  | .this span => pure (.this span)
  | .member span object property => do
      return .member span (← object.lower targets) property
  | .index span object key => do
      let object ← object.lower targets
      return .index span object (← key.lower targets)
  | .call span callee arguments => do
      let callee ← callee.lower targets
      return .call span callee (← lowerItems targets arguments)
  | .array span elements => do
      return .array span (← lowerItems targets elements)
  | .object span properties => do
      return .object span (← lowerProperties targets properties)
  | .conditional span test yes no => do
      let test ← test.lower targets
      let yes ← yes.lower targets
      return .conditional span test yes (← no.lower targets)
  | .binary span operator left right => do
      let left ← left.lower targets
      return .binary span operator left (← right.lower targets)
  | .logical span operator left right => do
      let left ← left.lower targets
      return .logical span operator left (← right.lower targets)
  | .unary span operator argument => do
      return .unary span operator (← argument.lower targets)
  | .assign span operator target value => do
      let target ← target.lower targets
      return .assign span operator target (← value.lower targets)
  | .update span operator before target => do
      return .update span operator before (← target.lower targets)
  | .sequence span expressions => do
      return .sequence span (← lowerExprs targets expressions)
  | .parenthesized span inner => do
      return .parenthesized span (← inner.lower targets)
  | .arrow span parameters body => do
      return .arrow span parameters (← body.lower targets)
  | .marked mark inner => do
      return .marked mark (← inner.lower targets)
  | .typed span inner type => do
      return .typed span (← inner.lower targets) type
  | .present span inner => do
      return .present span (← inner.lower targets)
  | .form span strength guarded parts => do
      return .form span strength guarded (← lowerParts targets parts)
  | .markup content => content.lower targets

def Part.lower (targets : Targets) : Part → Report Part
  | .piece piece => pure (.piece piece)
  | .expr floor value => do return .expr floor (← value.lower targets)
  | .arguments span items => do return .arguments span (← lowerItems targets items)
  | .body content => do return .body (← content.lower targets)
  | .block span statements => do return .block span (← lowerStatements targets statements)
  | .statement single content => do return .statement single (← content.lower targets)

def lowerParts (targets : Targets) : List Part → Report (List Part)
  | [] => pure []
  | part :: rest => do
      let part ← part.lower targets
      return part :: (← lowerParts targets rest)

def lowerExprs (targets : Targets) : List Expr → Report (List Expr)
  | [] => pure []
  | value :: rest => do
      let value ← value.lower targets
      return value :: (← lowerExprs targets rest)

def Item.lower (targets : Targets) : Item → Report Item
  | .expr value => do return .expr (← value.lower targets)
  | .spread span argument => do return .spread span (← argument.lower targets)
  | .hole span => pure (.hole span)

def lowerItems (targets : Targets) : List Item → Report (List Item)
  | [] => pure []
  | item :: rest => do
      let item ← item.lower targets
      return item :: (← lowerItems targets rest)

def Key.lower (targets : Targets) : Key → Report Key
  | .name name => pure (.name name)
  | .expr value => do return .expr (← value.lower targets)

def Property.lower (targets : Targets) : Property → Report Property
  | .keyed span key value shorthand computed => do
      let key ← key.lower targets
      return .keyed span key (← value.lower targets) shorthand computed
  | .spread span argument => do return .spread span (← argument.lower targets)
  | .method span parts => do return .method span (← lowerParts targets parts)

def lowerProperties (targets : Targets) : List Property → Report (List Property)
  | [] => pure []
  | property :: rest => do
      let property ← property.lower targets
      return property :: (← lowerProperties targets rest)

def FunctionBody.lower (targets : Targets) : FunctionBody → Report FunctionBody
  | .expr value => do return .expr (← value.lower targets)
  | .block span statements => do return .block span (← lowerStatements targets statements)

def Markup.lower (targets : Targets) : Markup → Report Expr
  | .element span opening tag attributes children => do
      let head ← targets.callHead tag
      let entries ← lowerAttributes targets attributes
      let children ← lowerChildren targets children
      Report.lowered (.elementLowered span)
      return elementCall targets.mode span opening head entries children
  | .fragment span children => do
      let children ← lowerChildren targets children
      Report.lowered (.fragmentLowered span)
      return LoweredChild.toArray span children

def Attribute.lower (targets : Targets) : Attribute → Report Entry
  | .named span name value => do
      return .property span name.text (← value.lower targets span)
  | .spread span argument => do return .spread span (← argument.lower targets)

def lowerAttributes (targets : Targets) : List Attribute → Report (List Entry)
  | [] => pure []
  | given :: rest => do
      let entry ← given.lower targets
      return entry :: (← lowerAttributes targets rest)

/-- Lowers the value of the attribute with the given span. A bare attribute is true. -/
def AttributeValue.lower (targets : Targets) (owner : Span) : AttributeValue → Report Expr
  | .bare => pure (.boolean owner true)
  | .text span value => pure (.string span (String.ofList (Entity.decode value.toList)))
  | .braced _ content => content.lower targets
  | .markup content => content.lower targets

/-- Lowers what stands in braces. Nothing is `null`. -/
def Braced.lower (targets : Targets) : Braced → Report Expr
  | .expr value => value.lower targets
  | .empty span => pure (.null span)

/-- Lowers a child to the children it leaves, at most one. -/
def Child.lower (targets : Targets) : Child → Report (List LoweredChild)
  | .text span value raw => pure (textChildren span value raw)
  | .markup content => do return [.expr (← content.lower targets)]
  | .braced _ content => do return [.expr (← content.lower targets)]
  | .spread span argument => do return [.spread span (← argument.lower targets)]

def lowerChildren (targets : Targets) : List Child → Report (List LoweredChild)
  | [] => pure []
  | child :: rest => do
      let lowered ← child.lower targets
      return lowered ++ (← lowerChildren targets rest)

def Statement.lower (targets : Targets) : Statement → Report Statement
  | .empty span => pure (.empty span)
  | .directive span text => pure (.directive span text)
  | .expression span value => do
      return .expression span (← value.lower targets)
  | .labeled span label body => do
      return .labeled span label (← body.lower targets)
  | .declaration span kind declarators => do
      return .declaration span kind (← lowerDeclarators targets declarators)
  | .function span name parameters bodySpan body => do
      return .function span name parameters bodySpan (← lowerStatements targets body)
  | .ret span argument => do
      return .ret span (← lowerOptional targets argument)
  | .block span body => do
      return .block span (← lowerStatements targets body)
  | .ifElse span test yes no => do
      let test ← test.lower targets
      let yes ← yes.lower targets
      return .ifElse span test yes (← lowerAlternative targets no)
  | .exportDeclaration span declaration => do
      return .exportDeclaration span (← declaration.lower targets)
  | .exportDefault span value => do
      return .exportDefault span (← value.lower targets)
  | .marked inner => do
      return .marked (← inner.lower targets)
  | .form span declares parts => do
      return .form span declares (← lowerParts targets parts)

def lowerStatements (targets : Targets) : List Statement → Report (List Statement)
  | [] => pure []
  | statement :: rest => do
      let statement ← statement.lower targets
      return statement :: (← lowerStatements targets rest)

def lowerOptional (targets : Targets) : Option Expr → Report (Option Expr)
  | none => pure none
  | some value => do return some (← value.lower targets)

def lowerAlternative (targets : Targets) : Option Statement → Report (Option Statement)
  | none => pure none
  | some statement => do return some (← statement.lower targets)

def Declarator.lower (targets : Targets) : Declarator → Report Declarator
  | .mk span name type init => do return .mk span name type (← lowerOptional targets init)

def lowerDeclarators (targets : Targets) : List Declarator → Report (List Declarator)
  | [] => pure []
  | declarator :: rest => do
      let declarator ← declarator.lower targets
      return declarator :: (← lowerDeclarators targets rest)

end

end JsxLowering
