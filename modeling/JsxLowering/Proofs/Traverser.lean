import JsxLowering.Proofs.Traversal
import JsxLowering.Transform

set_option autoImplicit false

/-!
Lowering in place, by a visitor with a state. The elements and fragments that the walk is
inside of stand on a stack, each with what has been gathered for it so far. Markup that
has been lowered is parked until the place that held it is left, and there is room for
one parked expression only.

Everything that the visitor takes for granted is a fault where it does not hold: that
there is an element on the stack, that something is parked where it is to be placed and
nothing where it is to be parked, that a tag and a call are made once and before they are
used, and that the targets are known.
-/

namespace JsxLowering

/-- What the visitor takes for granted and finds otherwise. -/
inductive Fault where
  | stackUnderflow
  | nothingParked
  | parkedTwice
  | tagResolvedTwice
  | tagMissing
  | callBuiltTwice
  | callMissing
  | fragmentWithCall
  | emptyContainer
  | emptyPath
  | targetsUnresolved
  | stackLeft
  | parkedLeft
  deriving DecidableEq

/-- A tag on its way into a call: a name that is passed, or an expression that is called. -/
inductive ResolvedTag where
  | name (span : Span) (text : String)
  | callee (value : Expr)

/-- The call of an element before its children are known. -/
structure Call where
  span : Span
  callee : Expr
  arguments : List Item

/-- An element or fragment that is being lowered. -/
structure Frame where
  call : Option Call
  tag : Option ResolvedTag
  entries : List Entry
  children : List LoweredChild

/-- The state of the visitor. -/
structure Traverser where
  options : Options
  targets : Option Targets
  stack : List Frame
  lowered : Option Expr
  count : Nat
  errors : List Diagnostic
  log : List Event

/-- A step of the visitor, which may fail. -/
abbrev Walking := StateT Traverser (Except Fault)

namespace Frame

/-- An element or fragment of which nothing is known. -/
def fresh : Frame := ⟨none, none, [], []⟩

def addEntry (frame : Frame) (entry : Entry) : Frame :=
  { frame with entries := frame.entries ++ [entry] }

def addChild (frame : Frame) (child : LoweredChild) : Frame :=
  { frame with children := frame.children ++ [child] }

end Frame

namespace Traverser

/-- The state before the walk. -/
def start (options : Options) : Traverser := ⟨options, none, [], none, 0, [], []⟩

/-- The targets of the program. -/
def resolved : Walking Targets := do
  match (← get).targets with
  | some targets => pure targets
  | none => throw .targetsUnresolved

/-- The element or fragment that is being lowered. -/
def current : Walking Frame := do
  match (← get).stack with
  | frame :: _ => pure frame
  | [] => throw .stackUnderflow

def push (frame : Frame) : Walking Unit :=
  modify fun state => { state with stack := frame :: state.stack }

def pop : Walking Frame := do
  let frame ← current
  modify fun state => { state with stack := state.stack.tail }
  return frame

/-- Puts another frame in the place of the one that is being lowered. -/
def setCurrent (frame : Frame) : Walking Unit := do
  let _ ← pop
  push frame

/-- Parks a lowered expression until its place is left. -/
def stash (value : Expr) : Walking Unit := do
  match (← get).lowered with
  | some _ => throw .parkedTwice
  | none => modify fun state => { state with lowered := some value }

/-- Takes the expression that is parked. -/
def takeLowered : Walking Expr := do
  match (← get).lowered with
  | some value =>
      modify fun state => { state with lowered := none }
      return value
  | none => throw .nothingParked

def complain (diagnostic : Diagnostic) : Walking Unit :=
  modify fun state => { state with errors := state.errors ++ [diagnostic] }

def record (events : List Event) : Walking Unit :=
  modify fun state => { state with log := state.log ++ events }

/-- The member access that a dotted path spells. -/
def pathExpression (path : DottedPath) : Walking Expr :=
  match path.segments with
  | [] => throw .emptyPath
  | root :: members =>
      pure (members.foldl (fun object segment => .member .nowhere object ⟨.nowhere, segment⟩)
        (.identifier .nowhere root false))

/-- The expression that a tag resolves to. -/
def tagCallee : Tag → Walking Expr
  | .intrinsic name => do return (← resolved).resolvePlain name false
  | .reference name => do return (← resolved).resolvePlain name true
  | .namespaced span _ name => do
      complain (.namespacedTag span)
      return .identifier name.span name.text false
  | .member span object property => pure (.access span object.toExpr property)
  | .this span => pure (.this span)

/-- What a tag is on its way into a call. -/
def resolveTag (tag : Tag) : Walking ResolvedTag := do
  match (← get).options.mode with
  | .targeted => return .callee (← tagCallee tag)
  | _ => return .name tag.span tag.label

/-- Resolves the tag of the element that is being lowered. -/
def enterOpening (tag : Tag) : Walking Unit := do
  let resolvedTag ← resolveTag tag
  let frame ← current
  match frame.tag with
  | some _ => throw .tagResolvedTwice
  | none => setCurrent { frame with tag := some resolvedTag }

/-- The callee and the arguments of a call on a tag. -/
def callParts (argument : Expr) : ResolvedTag → Walking (Expr × List Item)
  | .name span text => do
      return ((← resolved).tagCall, [.expr (.string span text), .expr argument])
  | .callee value => pure (value, [.expr argument])

/-- Takes the tag and the attributes of the element that is being lowered. -/
def takeOpening : Walking (ResolvedTag × List Entry) := do
  let frame ← current
  match frame.tag with
  | none => throw .tagMissing
  | some tag =>
      setCurrent { frame with tag := none, entries := [] }
      return (tag, frame.entries)

/-- Sets the call of the element that is being lowered. -/
def setCall (call : Call) : Walking Unit := do
  let frame ← current
  match frame.call with
  | some _ => throw .callBuiltTwice
  | none => setCurrent { frame with call := some call }

/-- Builds the call of the element that is being lowered. -/
def exitOpening (span : Span) : Walking Unit := do
  let (tag, entries) ← takeOpening
  let argument := props (← get).options.mode span entries
  let (callee, arguments) ← callParts argument tag
  setCall ⟨span, callee, arguments⟩

def addEntry (entry : Entry) : Walking Unit := do
  setCurrent ((← current).addEntry entry)

def addChild (child : LoweredChild) : Walking Unit := do
  setCurrent ((← current).addChild child)

/-- Takes the expression out of braces, which are empty afterwards. -/
def takeContent : Braced → Walking Expr
  | .expr value => pure value
  | .empty _ => throw .emptyContainer

/-- Takes the value out of an attribute. -/
def takeValue (owner : Span) : AttributeValue → Walking (Expr × AttributeValue)
  | .bare => pure (.boolean owner true, .bare)
  | .text span value =>
      pure (.string span (String.ofList (Entity.decode value.toList)), .text span value)
  | .braced span content => do return (← takeContent content, .braced span (.empty span))
  | .markup content => do return (← takeLowered, .markup content)

def exitAttribute : Attribute → Walking Attribute
  | .named span name value => do
      let (taken, left) ← takeValue span value
      addEntry (.property span name.text taken)
      return .named span name left
  | .spread span argument => do
      addEntry (.spread span argument)
      return .spread span (.null argument.span)

def exitChild : Child → Walking Child
  | .text span value raw => do
      if value = "" then return .text span value raw
      addChild (.text ⟨span, Entity.decode value.toList, (raw.getD value).toList⟩)
      return .text span value raw
  | .markup content => do
      addChild (.expr (← takeLowered))
      return .markup content
  | .braced span content => do
      addChild (.expr (← takeContent content))
      return .braced span (.empty span)
  | .spread span argument => do
      addChild (.spread span argument)
      return .spread span (.null argument.span)

/-- Empty braces become `null`, and markup that is still parked is placed. -/
def exitBraced : Braced → Walking Braced
  | .empty span => pure (.expr (.null span))
  | .expr (.markup content) => do
      if (← get).lowered.isSome then return .expr (← takeLowered)
      else return .expr (.markup content)
  | .expr value => pure (.expr value)

/-- Markup is replaced by its lowered form. -/
def exitExpression : Expr → Walking Expr
  | .markup _ => takeLowered
  | value => pure value

/-- Counts a lowered piece of markup. -/
def finish (event : Event) : Walking Unit := do
  modify fun state => { state with count := state.count + 1 }
  record [event]

/-- Completes the call of an element with its children and parks it. -/
def exitElement (span : Span) : Walking Unit := do
  let frame ← pop
  match frame.call with
  | none => throw .callMissing
  | some call =>
      let children := LoweredChild.normalize frame.children
      let arguments :=
        if children.isEmpty then call.arguments
        else call.arguments ++ [.expr (.array span (children.map LoweredChild.toItem))]
      finish (.elementLowered span)
      stash (.call span call.callee arguments)

/-- Parks the array of a fragment's children. -/
def exitFragment (span : Span) : Walking Unit := do
  let frame ← pop
  match frame.call with
  | some _ => throw .fragmentWithCall
  | none =>
      let children := LoweredChild.normalize frame.children
      finish (.fragmentLowered span)
      stash (.array span (children.map LoweredChild.toItem))

/-- The visitor that lowers markup. -/
def handlers : Visitor Walking where
  enterElement := push .fresh
  exitElement
  enterFragment := push .fresh
  exitFragment
  enterOpening
  exitOpening
  exitAttribute
  exitChild
  exitBraced
  exitExpression

/-- Finds the targets of a program. -/
def enterProgram (program : Program) : Walking Unit := do
  let options := (← get).options
  let annotations := effectiveAnnotations options program
  record (headerWarnings options program ++ overrideEvents annotations)
  let tagCall ← pathExpression options.tagCall
  let dom ← pathExpression (annotations.jsx.getD options.dom)
  let components ← (annotations.components.or options.components).mapM pathExpression
  modify fun state => { state with targets := some ⟨options.mode, tagCall, dom, components⟩ }

/-- Nothing may be left on the stack or parked at the end. -/
def exitProgram : Walking Unit := do
  let state ← get
  unless state.stack.isEmpty do throw .stackLeft
  unless state.lowered.isNone do throw .parkedLeft

/-- Walks a program from its first to its last statement. -/
def walkProgram (program : Program) : Walking Program := do
  enterProgram program
  let body ← walkStatements handlers program.body
  exitProgram
  return { program with body }

/-- Lowers all markup of a program in place. -/
def transform (options : Options) (program : Program) : Except Fault Transformation := do
  let (program, state) ← walkProgram program (start options)
  unless state.stack.isEmpty do throw .stackLeft
  return {
    outcome := if state.errors.isEmpty then .ok ⟨program, state.count⟩ else .error state.errors
    log := state.log }

end Traverser

end JsxLowering
