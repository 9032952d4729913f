import Mathlib.Data.List.Flatten
import JsxLowering.Proofs.Spans

set_option autoImplicit false

/-!
What stands in the place of an expression. Outside of markup the lowered tree has the shape of the
tree before, and each node has the span of the node whose place it takes. A piece of markup is
replaced by an expression with its span, and the expressions that it held are found in there, in
their order.
-/

namespace JsxLowering

/-- The expression between braces. Nothing counts as `null`. -/
def Braced.slot : Braced → Expr
  | .expr value => value
  | .empty span => .null span

/-- The expression that is the value of an attribute. A text is none. -/
def AttributeValue.slot? : AttributeValue → Option Expr
  | .bare => none
  | .text _ _ => none
  | .braced _ content => some content.slot
  | .markup content => some (.markup content)

theorem props_of_ne_grouped {mode : Mode} (flat : mode ≠ .grouped) (span : Span)
    (entries : List Entry) : props mode span entries = flatProps span entries := by
  cases mode with
  | grouped => exact absurd rfl flat
  | _ => rfl

namespace Node

/-- The expressions that a node holds if it is a part of markup, or else the node itself. -/
def slots : Node → List Node
  | markup content => [expr (.markup content)]
  | attr (.named _ _ value) => value.slot?.toList.map expr
  | attr (.spread _ argument) => [expr argument]
  | attributeValue _ value => value.slot?.toList.map expr
  | braced content => [expr content.slot]
  | child (.text ..) => []
  | child (.markup content) => [expr (.markup content)]
  | child (.braced _ content) => [expr content.slot]
  | child (.spread _ argument) => [expr argument]
  | node => [node]

/-- The second node stands where the first one stood. -/
inductive Aligned : Node → Node → Prop where
  | plain {before after : Node} (unmarked : before.isMarkup = false)
      (head : after.head = before.head) (span : after.span? = before.span?)
      (parts : List.Forall₂ Aligned before.children after.children) : Aligned before after
  | markup {content : Markup} {after : Expr} {held : List Node}
      (span : after.span = content.span)
      (parts : List.Forall₂ Aligned (content.children.flatMap slots) held)
      (among : held.Sublist (expr after).preorder) : Aligned (expr (.markup content)) (expr after)

theorem mem_preorder_self (node : Node) : node ∈ node.preorder := by
  rw [preorder_eq]
  exact List.mem_cons_self

theorem mem_preorder_of_mem_children {node part : Node} (membership : part ∈ node.children) :
    part ∈ node.preorder := by
  rw [preorder_eq]
  exact List.mem_cons_of_mem _ (List.mem_flatMap.mpr ⟨part, membership, part.mem_preorder_self⟩)

theorem flatMap_preorder_sublist (node : Node) :
    (node.children.flatMap preorder).Sublist node.preorder := by
  rw [preorder_eq]
  exact List.sublist_cons_self _ _

/-! The expressions of entries and children are found below what they are put in. -/

theorem content_sublist_flat (entry : Entry) :
    [expr entry.content].Sublist (property entry.flat).preorder := by
  apply List.singleton_sublist.mpr
  apply mem_preorder_of_mem_children
  cases entry <;> simp [Entry.flat, Entry.content, plainProperty, Node.children, Property.children]

theorem contents_sublist_flatProps (span : Span) (entries : List Entry) :
    (entries.map fun entry => expr entry.content).Sublist
      (expr (flatProps span entries)).preorder := by
  cases entries with
  | nil => exact List.nil_sublist _
  | cons first rest =>
      refine List.Sublist.trans ?_ (flatMap_preorder_sublist _)
      have contents : ((first :: rest).map fun entry => expr entry.content) =
          (first :: rest).flatMap fun entry => [expr entry.content] := by
        simp [← List.map_eq_flatMap]
      have parts : (expr (flatProps span (first :: rest))).children.flatMap preorder =
          (first :: rest).flatMap fun entry => (property entry.flat).preorder := by
        simp [flatProps, objectOrNull, Node.children, Expr.children, List.flatMap_map]
      rw [contents, parts]
      exact List.Sublist.flatMap_right _ fun entry _ => content_sublist_flat entry

theorem content_sublist_toItem (child : LoweredChild) :
    (child.content?.toList.map expr).Sublist (item child.toItem).preorder := by
  cases child with
  | text content => exact List.nil_sublist _
  | expr value =>
      apply List.singleton_sublist.mpr
      exact mem_preorder_of_mem_children List.mem_cons_self
  | spread span argument =>
      apply List.singleton_sublist.mpr
      exact mem_preorder_of_mem_children List.mem_cons_self

theorem contents_sublist_toArray (span : Span) (children : List LoweredChild) :
    ((children.filterMap LoweredChild.content?).map expr).Sublist
      (expr (LoweredChild.toArray span children)).preorder := by
  rw [← LoweredChild.content_normalize]
  refine List.Sublist.trans ?_ (flatMap_preorder_sublist _)
  have contents (values : List LoweredChild) :
      (values.filterMap LoweredChild.content?).map expr =
        values.flatMap fun child => child.content?.toList.map expr := by
    rw [List.filterMap_eq_flatMap_toList, List.map_flatMap]
  have parts : (expr (LoweredChild.toArray span children)).children.flatMap preorder =
      (LoweredChild.normalize children).flatMap fun child => (item child.toItem).preorder := by
    simp [LoweredChild.toArray, Node.children, Expr.children, List.flatMap_map]
  rw [contents, parts]
  exact List.Sublist.flatMap_right _ fun child _ => content_sublist_toItem child

theorem contents_sublist_childrenArgument (span : Span) (children : List LoweredChild) :
    ((children.filterMap LoweredChild.content?).map expr).Sublist
      ((childrenArgument span children).flatMap fun given => (item given).preorder) := by
  unfold childrenArgument
  split
  next empty =>
    rw [← LoweredChild.content_normalize, List.isEmpty_iff.mp empty]
    exact List.nil_sublist _
  next _ =>
    rw [List.flatMap_singleton]
    refine (contents_sublist_toArray span children).trans ?_
    have inner := flatMap_preorder_sublist (item (.expr (LoweredChild.toArray span children)))
    simpa [Node.children, Item.children] using inner

section

variable {targets : Targets}

theorem loweredChildren_of_element (span opening : Span) (tag : Tag) (attributes : List Attribute)
    (children : List Child) :
    (markup (.element span opening tag attributes children)).loweredChildren targets =
      ((lowerAttributes targets attributes).value.map fun entry => expr entry.content) ++
        ((lowerChildren targets children).value.filterMap LoweredChild.content?).map expr := by
  simp [loweredChildren, lower, Node.children, Markup.children, List.flatMap_map,
    ← List.map_eq_flatMap, ← List.flatMap_def, List.filterMap_flatMap, List.map_flatMap]

theorem loweredChildren_of_fragment (span : Span) (children : List Child) :
    (markup (.fragment span children)).loweredChildren targets =
      ((lowerChildren targets children).value.filterMap LoweredChild.content?).map expr := by
  simp [loweredChildren, lower, Node.children, Markup.children, List.flatMap_map,
    ← List.flatMap_def, List.filterMap_flatMap, List.map_flatMap]

variable (flat : targets.mode ≠ .grouped)

include flat

theorem contents_sublist_elementCall (span opening : Span) (head : CallHead)
    (entries : List Entry) (children : List LoweredChild) :
    ((entries.map fun entry => expr entry.content) ++
        (children.filterMap LoweredChild.content?).map expr).Sublist
      (expr (elementCall targets.mode span opening head entries children)).preorder := by
  have properties : (entries.map fun entry => expr entry.content).Sublist
      (item (.expr (props targets.mode opening entries))).preorder := by
    rw [props_of_ne_grouped flat]
    refine (contents_sublist_flatProps opening entries).trans ?_
    have inner := flatMap_preorder_sublist (item (.expr (flatProps opening entries)))
    simpa [Node.children, Item.children] using inner
  refine List.Sublist.trans ?_ (flatMap_preorder_sublist _)
  have parts : (expr (elementCall targets.mode span opening head entries
        children)).children.flatMap preorder =
      ((expr head.callee).preorder ++ head.leading.flatMap fun given => (item given).preorder) ++
        ((item (.expr (props targets.mode opening entries))).preorder ++
          (childrenArgument span children).flatMap fun given => (item given).preorder) := by
    simp [elementCall, Node.children, Expr.children, List.flatMap_map]
  rw [parts]
  refine List.Sublist.trans ?_ (List.sublist_append_right _ _)
  exact properties.append (contents_sublist_childrenArgument span children)

theorem loweredChildren_sublist (content : Markup) :
    ((markup content).loweredChildren targets).Sublist
      (expr (content.lower targets).value).preorder := by
  cases content with
  | element span opening tag attributes children =>
      rw [loweredChildren_of_element]
      exact contents_sublist_elementCall flat span opening _ _ _
  | fragment span children =>
      rw [loweredChildren_of_fragment]
      exact contents_sublist_toArray span _

end

/-- What a node holds stands, in its order, among the nodes that take its place. -/
def Lines (targets : Targets) (node : Node) : Prop :=
  ∃ held, List.Forall₂ Aligned node.slots held ∧ held.Sublist (node.lower targets).value

variable {targets : Targets}

theorem Lines.flatMap {nodes : List Node} (lines : ∀ node ∈ nodes, node.Lines targets) :
    ∃ held, List.Forall₂ Aligned (nodes.flatMap slots) held ∧
      held.Sublist (nodes.flatMap fun node => (node.lower targets).value) := by
  induction nodes with
  | nil => exact ⟨[], .nil, .slnil⟩
  | cons node rest inductionHypothesis =>
      obtain ⟨first, aligned, among⟩ := lines node List.mem_cons_self
      obtain ⟨others, alignedRest, amongRest⟩ :=
        inductionHypothesis fun other membership => lines other (List.mem_cons_of_mem _ membership)
      exact ⟨first ++ others, List.rel_append aligned alignedRest, among.append amongRest⟩

theorem lines_of_aligned {node : Node} (outside : node.isOutside = true)
    (aligned : Aligned node (node.image targets)) : node.Lines targets := by
  have own : node.slots = [node] := by cases node <;> first | rfl | cases outside
  refine ⟨[node.image targets], ?_, ?_⟩
  · rw [own]
    exact .cons aligned .nil
  · rw [value_lower_of_isOutside targets outside]

theorem Lines.aligned {node : Node} (outside : node.isOutside = true)
    (lines : node.Lines targets) : Aligned node (node.image targets) := by
  have own : node.slots = [node] := by cases node <;> first | rfl | cases outside
  obtain ⟨held, aligned, among⟩ := lines
  rw [own] at aligned
  rw [value_lower_of_isOutside targets outside] at among
  obtain ⟨after, rest, first, nothing, rfl⟩ := List.forall₂_cons_left_iff.mp aligned
  obtain rfl := List.mem_singleton.mp (among.subset List.mem_cons_self)
  exact first

theorem aligned_of_plain {node : Node} (plain : node.isMarkup = false)
    (parts : ∀ part ∈ node.children, part.Lines targets) :
    Aligned node (node.image targets) := by
  have kept := keeps_image targets plain
  refine .plain plain kept.head (span?_image targets (isOutside_of_plain plain)) ?_
  rw [children_image targets plain, List.forall₂_map_right_iff, List.forall₂_same]
  intro part membership
  exact (parts part membership).aligned (isOutside_of_mem_children plain part membership)

theorem lines_markup (flat : targets.mode ≠ .grouped) {content : Markup}
    (parts : ∀ part ∈ content.children, part.Lines targets) :
    (markup content).Lines targets := by
  obtain ⟨held, aligned, among⟩ := Lines.flatMap parts
  refine ⟨[expr (content.lower targets).value], .cons ?_ .nil, .refl _⟩
  refine .markup (content.span_lower targets) aligned ?_
  exact among.trans (loweredChildren_sublist flat content)

/-- A node that only stands around its one part is lowered like that. -/
theorem lines_of_wrapper {node : Node} (wrapper : node.isMarkup = true)
    (other : ∀ content, node ≠ markup content)
    (parts : ∀ part ∈ node.children, part.Lines targets) : node.Lines targets := by
  cases node with
  | expr value =>
      cases value with
      | markup content => exact parts (markup content) List.mem_cons_self
      | _ => cases wrapper
  | markup content => exact absurd rfl (other content)
  | attr given =>
      cases given with
      | named span name value => exact parts (attributeValue span value) List.mem_cons_self
      | spread span argument => exact parts (expr argument) List.mem_cons_self
  | attributeValue owner value =>
      cases value with
      | bare => exact ⟨[], .nil, List.nil_sublist _⟩
      | text span value => exact ⟨[], .nil, List.nil_sublist _⟩
      | braced span content => exact parts (braced content) List.mem_cons_self
      | markup content => exact parts (markup content) List.mem_cons_self
  | braced content =>
      cases content with
      | expr value => exact parts (expr value) List.mem_cons_self
      | empty span => exact ⟨[expr (.null span)], .cons (.plain rfl rfl rfl .nil) .nil, .refl _⟩
  | child value =>
      cases value with
      | text span value raw => exact ⟨[], .nil, List.nil_sublist _⟩
      | markup content => exact parts (markup content) List.mem_cons_self
      | braced span content => exact parts (braced content) List.mem_cons_self
      | spread span argument => exact parts (expr argument) List.mem_cons_self
  | _ => cases wrapper

theorem lines (flat : targets.mode ≠ .grouped) (node : Node) : node.Lines targets := by
  induction node using Node.induction with
  | step node inductionHypothesis =>
      cases plain : node.isMarkup with
      | false =>
          have aligned := aligned_of_plain plain inductionHypothesis
          exact lines_of_aligned (isOutside_of_plain plain) aligned
      | true =>
          by_cases content : ∃ content, node = markup content
          · obtain ⟨content, rfl⟩ := content
            exact lines_markup flat inductionHypothesis
          · refine lines_of_wrapper plain ?_ inductionHypothesis
            intro other same
            exact content ⟨other, same⟩

end Node

theorem Program.aligned_of_accepted {options : Options} {program : Program} {lowered : Lowered}
    (flat : options.mode ≠ .grouped)
    (accepted : (transform options program).outcome = .ok lowered) :
    List.Forall₂ (fun before after => Node.Aligned (.statement before) (.statement after))
      program.body lowered.program.body := by
  obtain ⟨_, rfl⟩ := (outcome_eq_ok_iff options program lowered).mp accepted
  rw [Program.lowerBody, Report.value_mapM, List.forall₂_map_right_iff, List.forall₂_same]
  intro statement _
  exact (Node.lines flat (.statement statement)).aligned rfl

end JsxLowering
