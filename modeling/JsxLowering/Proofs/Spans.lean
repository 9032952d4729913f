import JsxLowering.Proofs.Modes

set_option autoImplicit false

/-!
Spans that lie in one another. A node has its span, and so have the words in it that are no
nodes of their own. In a program from a source the parts of a node lie in the node, attributes in
the opening tag, and the statements of a function between its braces.

What is no markup keeps its own spans, and what takes the place of an expression has the span of
that expression.
-/

namespace JsxLowering

namespace Span

/-- The first span lies in the second. -/
structure Within (inner outer : Span) : Prop where
  start : outer.start ≤ inner.start
  stop : inner.stop ≤ outer.stop

instance (inner outer : Span) : Decidable (inner.Within outer) :=
  decidable_of_iff (outer.start ≤ inner.start ∧ inner.stop ≤ outer.stop)
    ⟨fun bounds => ⟨bounds.1, bounds.2⟩, fun within => ⟨within.start, within.stop⟩⟩

namespace Within

@[refl, simp]
theorem refl (span : Span) : span.Within span := ⟨UInt32.le_refl _, UInt32.le_refl _⟩

theorem trans {first second third : Span} (left : first.Within second)
    (right : second.Within third) : first.Within third :=
  ⟨UInt32.le_trans right.start left.start, UInt32.le_trans left.stop right.stop⟩

end Within

/-! Where no more bytes are taken away than there are, nothing wraps around. -/

theorem toNat_start_dropStart {span : Span} {count : Nat}
    (room : span.start.toNat + count ≤ span.stop.toNat) :
    (span.dropStart count).start.toNat = span.start.toNat + count := by
  have bound : span.stop.toNat < 2 ^ 32 := span.stop.toNat_lt
  have same : count.toUInt32.toNat = count := UInt32.toNat_ofNat_of_lt (by change _ < 2 ^ 32; omega)
  rw [dropStart, UInt32.toNat_add, same, Nat.mod_eq_of_lt (by omega)]

theorem toNat_stop_dropEnd {span : Span} {count : Nat}
    (room : span.start.toNat + count ≤ span.stop.toNat) :
    (span.dropEnd count).stop.toNat = span.stop.toNat - count := by
  have bound : span.stop.toNat < 2 ^ 32 := span.stop.toNat_lt
  have same : count.toUInt32.toNat = count := UInt32.toNat_ofNat_of_lt (by change _ < 2 ^ 32; omega)
  rw [dropEnd, UInt32.toNat_sub_of_le, same]
  rw [UInt32.le_iff_toNat_le, same]
  omega

end Span

/-- The span of a piece that is a word, a string or a pair of braces. -/
def Piece.span? : Piece → Option Span
  | .string span _ => some span
  | .name given => some given.span
  | .binding given => some given.span
  | .property given => some given.span
  | .opening span => some span
  | .closing span => some span
  | _ => none

def FunctionBody.span : FunctionBody → Span
  | .expr value => value.span
  | .block span _ => span

def Part.span? : Part → Option Span
  | .piece content => content.span?
  | .expr _ value => some value.span
  | .arguments span _ => some span
  | .body content => some content.span
  | .block span _ => some span
  | .statement _ content => some content.span

def Property.span : Property → Span
  | .keyed span .. => span
  | .spread span _ => span
  | .method span _ => span

def Key.span : Key → Span
  | .name word => word.span
  | .expr value => value.span

def Attribute.span : Attribute → Span
  | .named span .. => span
  | .spread span _ => span

def AttributeValue.span? : AttributeValue → Option Span
  | .bare => none
  | .text span _ => some span
  | .braced span _ => some span
  | .markup content => some content.span

def Braced.span : Braced → Span
  | .expr value => value.span
  | .empty span => span

def Child.span : Child → Span
  | .text span .. => span
  | .markup content => content.span
  | .braced span _ => span
  | .spread span _ => span

def Declarator.span : Declarator → Span
  | .mk span .. => span

/-! Of what stands in a node without being a node itself the span is listed, with the span that
it has to lie in. -/

def TagObject.enclosures : TagObject → List (Span × Span)
  | reference _ => []
  | this _ => []
  | member span object property =>
      (object.span, span) :: (property.span, span) :: object.enclosures

def Tag.enclosures : Tag → List (Span × Span)
  | namespaced span space name => [(space.span, span), (name.span, span)]
  | member span object property =>
      (object.span, span) :: (property.span, span) :: object.enclosures
  | _ => []

def AttributeName.enclosures (owner : Span) : AttributeName → List (Span × Span)
  | plain name => [(name.span, owner)]
  | namespaced span space name => [(span, owner), (space.span, span), (name.span, span)]

namespace Node

/-- The span of a node, if it has one. -/
def span? : Node → Option Span
  | expr value => some value.span
  | part value => value.span?
  | item value => some value.span
  | property value => some value.span
  | key value => some value.span
  | functionBody value => some value.span
  | markup content => some content.span
  | attr given => some given.span
  | attributeValue _ value => value.span?
  | braced content => some content.span
  | child value => some value.span
  | statement value => some value.span
  | declarator value => some value.span

/-- The words and tags in a node, each with the span that it has to lie in. -/
def enclosures : Node → List (Span × Span)
  | expr (.member span _ word) => [(word.span, span)]
  | expr (.arrow span parameters _) => parameters.map fun word => (word.span, span)
  | expr (.typed span _ type) => (type.filterMap Piece.span?).map fun inner => (inner, span)
  | markup (.element span opening tag _ _) =>
      (opening, span) :: (tag.span, opening) :: tag.enclosures
  | attr (.named span name _) => name.enclosures span
  | statement (.labeled span label _) => [(label.span, span)]
  | statement (.function span name parameters bodySpan _) =>
      (name.span, span) :: (bodySpan, span) :: parameters.map fun word => (word.span, span)
  | declarator (.mk span name type _) =>
      (name.span, span) :: (type.filterMap Piece.span?).map fun inner => (inner, span)
  | _ => []

/-- The span that a part of a node has to lie in. -/
def room : Node → Node → Option Span
  | markup (.element _ opening ..), attr _ => some opening
  | statement (.function _ _ _ bodySpan _), _ => some bodySpan
  | node, _ => node.span?

/-- The node lies in a span, if it has one itself and there is one to lie in. -/
def LiesIn (node : Node) (outer : Option Span) : Prop :=
  ∀ inner ∈ node.span?, ∀ place ∈ outer, inner.Within place

/-- All that stands directly in the node lies where it has to, except for parts that are exempt. -/
structure Nests (exempt : Node → Prop) (node : Node) : Prop where
  own : ∀ pair ∈ node.enclosures, pair.1.Within pair.2
  parts : ∀ part ∈ node.children, exempt part ∨ part.LiesIn (node.room part)

/-- The source text of a node that is a text, and where it stands. -/
def sourceText? : Node → Option (Span × String)
  | child (.text span value raw) => some (span, raw.getD value)
  | _ => none

/-- A text is as long as its source text. -/
def Measured (node : Node) : Prop :=
  ∀ found ∈ node.sourceText?,
    found.1.start.toNat + Text.byteLength found.2.toList = found.1.stop.toNat

instance (node : Node) (outer : Option Span) : Decidable (node.LiesIn outer) :=
  inferInstanceAs (Decidable (∀ inner ∈ node.span?, ∀ place ∈ outer, inner.Within place))

instance (exempt : Node → Prop) [DecidablePred exempt] (node : Node) :
    Decidable (node.Nests exempt) :=
  decidable_of_iff ((∀ pair ∈ node.enclosures, pair.1.Within pair.2) ∧
      ∀ part ∈ node.children, exempt part ∨ part.LiesIn (node.room part))
    ⟨fun both => ⟨both.1, both.2⟩, fun nests => ⟨nests.own, nests.parts⟩⟩

instance (node : Node) : Decidable node.Measured :=
  inferInstanceAs (Decidable (∀ found ∈ node.sourceText?,
    found.1.start.toNat + Text.byteLength found.2.toList = found.1.stop.toNat))

end Node

namespace Program

/-- The spans of a program lie in one another, except for parts that are exempt. -/
def Nested (exempt : Node → Prop) (program : Program) : Prop :=
  ∀ node ∈ program.nodes, node.Nests exempt

/-- The texts of a program are as long as their source texts. -/
def Measured (program : Program) : Prop := ∀ node ∈ program.nodes, node.Measured

instance (exempt : Node → Prop) [DecidablePred exempt] (program : Program) :
    Decidable (program.Nested exempt) :=
  inferInstanceAs (Decidable (∀ node ∈ program.nodes, node.Nests exempt))

instance (program : Program) : Decidable program.Measured :=
  inferInstanceAs (Decidable (∀ node ∈ program.nodes, node.Measured))

end Program

section

variable (targets : Targets)

@[simp]
theorem Markup.span_lower (content : Markup) :
    (content.lower targets).value.span = content.span := by
  cases content <;> rfl

@[simp]
theorem Expr.span_lower (value : Expr) : (value.lower targets).value.span = value.span := by
  cases value with
  | marked mark inner => exact inner.span_lower
  | markup content => exact content.span_lower targets
  | _ => rfl

@[simp]
theorem Statement.span_lower (statement : Statement) :
    (statement.lower targets).value.span = statement.span := by
  cases statement with
  | marked inner => exact inner.span_lower
  | _ => rfl

@[simp]
theorem FunctionBody.span_lower (body : FunctionBody) :
    (body.lower targets).value.span = body.span := by
  cases body with
  | expr value => exact value.span_lower targets
  | block span statements => rfl

end

namespace Node

/-- Something holds of a node and of all nodes below it. -/
def Throughout (holds : Node → Prop) (node : Node) : Prop := ∀ below ∈ node.preorder, holds below

theorem throughout_iff {holds : Node → Prop} {node : Node} :
    node.Throughout holds ↔ holds node ∧ ∀ part ∈ node.children, part.Throughout holds := by
  unfold Throughout
  rw [preorder_eq]
  simp only [List.mem_cons, forall_eq_or_imp, List.mem_flatMap]
  constructor
  · rintro ⟨here, below⟩
    exact ⟨here, fun child membership other inside => below other ⟨child, membership, inside⟩⟩
  · rintro ⟨here, below⟩
    refine ⟨here, ?_⟩
    rintro other ⟨child, membership, inside⟩
    exact below child membership other inside

/-- Whether the node is an expression or stands outside of markup. -/
def isOutside : Node → Bool
  | markup _ | attr _ | attributeValue _ _ | braced _ | child _ => false
  | _ => true

theorem isOutside_of_plain {node : Node} (plain : node.isMarkup = false) :
    node.isOutside = true := by
  cases node <;> first | rfl | cases plain

section

attribute [local simp] isOutside Node.children Expr.children Part.children Item.children
  Property.children Key.children FunctionBody.children Statement.children Declarator.children

theorem isOutside_of_mem_children {node : Node} (plain : node.isMarkup = false) :
    ∀ part ∈ node.children, part.isOutside = true := by
  cases node with
  | expr value =>
      cases value with
      | markup content => simp [isMarkup] at plain
      | _ => simp
  | part value => cases value <;> simp
  | item value => cases value <;> simp
  | property value => cases value <;> simp
  | key value => cases value <;> simp
  | functionBody value => cases value <;> simp
  | statement value => cases value <;> simp
  | declarator value =>
      cases value
      simp
  | _ => simp [isMarkup] at plain

end

variable {exempt : Node → Prop} (targets : Targets)

theorem value_lower_of_isOutside {node : Node} (outside : node.isOutside = true) :
    (node.lower targets).value = [node.image targets] := by
  apply value_lower_eq_image
  cases node <;> first | rfl | cases outside

theorem span?_image {node : Node} (outside : node.isOutside = true) :
    (node.image targets).span? = node.span? := by
  have expressions := Expr.span_lower targets
  have statements := Statement.span_lower targets
  have bodies := FunctionBody.span_lower targets
  cases node with
  | expr value => exact congrArg some (expressions value)
  | part value =>
      cases value with
      | expr floor value => exact congrArg some (expressions value)
      | body content => exact congrArg some (bodies content)
      | statement single content => exact congrArg some (statements content)
      | _ => rfl
  | item value =>
      cases value with
      | expr value => exact congrArg some (expressions value)
      | _ => rfl
  | property value => cases value <;> rfl
  | key value =>
      cases value with
      | expr value => exact congrArg some (expressions value)
      | name word => rfl
  | functionBody value => exact congrArg some (bodies value)
  | statement value => exact congrArg some (statements value)
  | declarator value =>
      cases value
      rfl
  | _ => cases outside

theorem enclosures_head (node : Node) : node.head.enclosures = node.enclosures := by
  cases node with
  | expr value => cases value <;> rfl
  | markup content => cases content <;> rfl
  | attr given => cases given <;> rfl
  | statement value => cases value <;> rfl
  | declarator value =>
      cases value
      rfl
  | _ => rfl

theorem room_image {node : Node} (plain : node.isMarkup = false) (part other : Node) :
    (node.image targets).room other = node.room part := by
  have spans := span?_image targets (isOutside_of_plain plain)
  cases node with
  | statement value =>
      cases value with
      | function span name parameters bodySpan body => rfl
      | _ => exact spans
  | markup content => cases plain
  | attr given => cases plain
  | attributeValue owner value => cases plain
  | braced content => cases plain
  | child value => cases plain
  | _ => exact spans

theorem children_image {node : Node} (plain : node.isMarkup = false) :
    (node.image targets).children = node.children.map (image targets) := by
  rw [(keeps_image targets plain).children, loweredChildren, List.map_eq_flatMap]
  apply List.flatMap_congr
  intro part membership
  exact value_lower_of_isOutside targets (isOutside_of_mem_children plain part membership)

theorem nests_image {node : Node} (plain : node.isMarkup = false)
    (nests : node.Nests fun _ => False) : (node.image targets).Nests exempt := by
  have kept := keeps_image targets plain
  constructor
  · intro pair membership
    rw [← enclosures_head, kept.head, enclosures_head] at membership
    exact nests.own pair membership
  · intro after membership
    rw [children_image targets plain] at membership
    obtain ⟨part, member, rfl⟩ := List.mem_map.mp membership
    have outside := isOutside_of_mem_children plain part member
    have lies := (nests.parts part member).resolve_left id
    right
    rw [LiesIn, span?_image targets outside, room_image targets plain part]
    exact lies

end Node

end JsxLowering
