import JsxLowering.KnownTags
import JsxLowering.Lowering.Report
import JsxLowering.Syntax

set_option autoImplicit false

/-!
What a tag is lowered to. One function may be called for every tag, with the tag's
name as its first argument. Otherwise the tag is resolved to an expression: a known
tag to a member of the DOM target, any other plain tag to a member of the components
target or, without one, to itself, and a member tag to the member access it spells.
-/

namespace JsxLowering

namespace TagObject

def label : TagObject → String
  | reference name => name.text
  | this _ => "this"
  | member _ object property => object.label ++ ":" ++ property.text

end TagObject

namespace Tag

def label : Tag → String
  | intrinsic name => name.text
  | reference name => name.text
  | namespaced _ space name => space.text ++ ":" ++ name.text
  | member _ object property => object.label ++ ":" ++ property.text
  | this _ => "this"

end Tag

namespace Expr

/-- The member access that a dotted path spells. None of it stands in the source. -/
def ofPath (path : DottedPath) : Expr :=
  path.members.foldl (fun object segment => .member .nowhere object ⟨.nowhere, segment⟩)
    (.identifier .nowhere path.root false)

/-- Accesses a property by name, with a dot if the name is an identifier name and with a
string in brackets if it is not. -/
def access (span : Span) (object : Expr) (property : Name) : Expr :=
  if isIdentifierName property.text then .member span object property
  else .index span object (.string property.span property.text)

end Expr

namespace TagObject

def toExpr : TagObject → Expr
  | reference name => .identifier name.span name.text false
  | this span => .this span
  | member span object property => .access span object.toExpr property

end TagObject

structure Targets where
  mode : Mode
  tagCall : Expr
  dom : Expr
  components : Option Expr

/-- The callee of an element's call and the arguments before its properties. -/
structure CallHead where
  callee : Expr
  leading : List Item

namespace Targets

/-- Resolves a plain tag. What can be no bare identifier is looked up on the DOM target. -/
def resolvePlain (targets : Targets) (name : Name) (bound : Bool) : Expr :=
  if isKnownTag name.text then .access name.span targets.dom name
  else
    match targets.components with
    | some components => .access name.span components name
    | none =>
        if isIdentifierName name.text then .identifier name.span name.text bound
        else .access name.span targets.dom name

/-- The expression that is called for a tag. A namespaced tag has none; its local name
stands in for it while the rest of the program is examined. -/
def resolve (targets : Targets) : Tag → Report Expr
  | .intrinsic name => pure (targets.resolvePlain name false)
  | .reference name => pure (targets.resolvePlain name true)
  | .namespaced span _ name => do
      Report.complain (.namespacedTag span)
      return .identifier name.span name.text false
  | .member span object property => pure (.access span object.toExpr property)
  | .this span => pure (.this span)

def callHead (targets : Targets) (tag : Tag) : Report CallHead :=
  match targets.mode with
  | .targeted => do return ⟨← targets.resolve tag, []⟩
  | _ => pure ⟨targets.tagCall, [.expr (.string tag.span tag.label)]⟩

end Targets

end JsxLowering
