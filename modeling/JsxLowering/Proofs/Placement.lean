import JsxLowering.Proofs.Alignment
import JsxLowering.Proofs.Grouping

set_option autoImplicit false

/-!
Where lowered markup stands. In every mode, what takes the place of a node stands within what takes
the place of the nodes around it, however deep it is in attributes, groups and children. So the
calls and arrays that the markup of a program becomes are all found in the lowered program.
-/

namespace JsxLowering

namespace Node

theorem mem_preorder_trans {inner middle outer : Node} (inside : inner ∈ middle.preorder)
    (below : middle ∈ outer.preorder) : inner ∈ outer.preorder := by
  induction outer using Node.induction with
  | step outer inductionHypothesis =>
      rw [preorder_eq] at below
      rcases List.mem_cons.mp below with rfl | deeper
      · exact inside
      · obtain ⟨part, membership, there⟩ := List.mem_flatMap.mp deeper
        rw [preorder_eq]
        apply List.mem_cons_of_mem
        exact List.mem_flatMap.mpr ⟨part, membership, inductionHypothesis part membership there⟩

theorem mem_preorder_of_part {inner part node : Node} (inside : inner ∈ part.preorder)
    (membership : part ∈ node.children) : inner ∈ node.preorder :=
  mem_preorder_trans inside (mem_preorder_of_mem_children membership)

/-! The expressions of entries are found in the properties argument, grouped or not. -/

theorem mem_children_objectOrNull {given : Property} {properties : List Property}
    (membership : given ∈ properties) (span : Span) :
    property given ∈ (expr (objectOrNull span properties)).children := by
  have nonempty : properties ≠ [] := List.ne_nil_of_mem membership
  simp [objectOrNull, nonempty, Node.children, Expr.children, membership]

theorem content_mem_inGroup (entry : Entry) :
    expr entry.content ∈ (property entry.inGroup).preorder := by
  apply mem_preorder_of_mem_children
  cases entry <;> simp [Entry.inGroup, Entry.content, plainProperty, Node.children,
    Property.children]

theorem content_mem_groupedProps {entries : List Entry} {entry : Entry}
    (membership : entry ∈ entries) (span : Span) :
    expr entry.content ∈ (expr (groupedProps span entries)).preorder := by
  have partition := Group.partition_ofEntries entries
  obtain ⟨group, there, same⟩ :=
    List.mem_map.mp ((partition.spaces entry.space).mpr (List.mem_map_of_mem membership))
  obtain ⟨first, rest, members, _, contents⟩ := partition.each group there
  have placed : entry.inGroup ∈ group.properties := by
    rw [contents, ← members]
    exact List.mem_map_of_mem (by simp [Entry.ofSpace, membership, same])
  have object : expr entry.content ∈
      (expr (objectOrNull group.span group.properties)).preorder :=
    mem_preorder_of_part (content_mem_inGroup entry) (mem_children_objectOrNull placed group.span)
  have grouped : expr entry.content ∈ (property group.toProperty).preorder := by
    refine mem_preorder_of_part object ?_
    simp [Group.toProperty, plainProperty, Node.children, Property.children]
  exact mem_preorder_of_part grouped
    (mem_children_objectOrNull (List.mem_map_of_mem there) span)

theorem content_mem_props (mode : Mode) {entries : List Entry} {entry : Entry}
    (membership : entry ∈ entries) (span : Span) :
    expr entry.content ∈ (expr (props mode span entries)).preorder := by
  by_cases grouped : mode = .grouped
  · rw [grouped]
    exact content_mem_groupedProps membership span
  · rw [props_of_ne_grouped grouped]
    exact (contents_sublist_flatProps span entries).subset (List.mem_map_of_mem membership)

theorem mem_elementCall_of_argument {mode : Mode} {span opening : Span} {head : CallHead}
    {entries : List Entry} {children : List LoweredChild} {inner : Node} {given : Item}
    (inside : inner ∈ (item given).preorder)
    (membership : given ∈ .expr (props mode opening entries) :: childrenArgument span children) :
    inner ∈ (expr (elementCall mode span opening head entries children)).preorder := by
  refine mem_preorder_of_part inside ?_
  simp only [elementCall, Node.children, Expr.children, List.mem_cons, List.mem_map,
    List.mem_append] at membership ⊢
  exact .inr ⟨given, .inr membership, rfl⟩

variable (targets : Targets)

/-- What takes the place of an attribute or a child stands in the call or the array. -/
theorem loweredChildren_subset (content : Markup) :
    (markup content).loweredChildren targets ⊆
      (expr (content.lower targets).value).preorder := by
  cases content with
  | element span opening tag attributes children =>
      rw [loweredChildren_of_element]
      intro inner membership
      rcases List.mem_append.mp membership with given | held
      · obtain ⟨entry, there, rfl⟩ := List.mem_map.mp given
        have argument : expr entry.content ∈ (item (.expr (props targets.mode opening
            (lowerAttributes targets attributes).value))).preorder :=
          mem_preorder_of_part (content_mem_props targets.mode there opening) List.mem_cons_self
        exact mem_elementCall_of_argument argument List.mem_cons_self
      · obtain ⟨argument, there, inside⟩ := List.mem_flatMap.mp
          ((contents_sublist_childrenArgument span _).subset held)
        exact mem_elementCall_of_argument inside (List.mem_cons_of_mem _ there)
  | fragment span children =>
      rw [loweredChildren_of_fragment]
      exact (contents_sublist_toArray span _).subset

/-- A node that only stands around its parts makes room for what takes their place. -/
theorem loweredChildren_subset_of_wrapper {node : Node} (wrapper : node.isMarkup = true)
    (other : ∀ content, node ≠ markup content) :
    node.loweredChildren targets ⊆ (node.lower targets).value := by
  cases node with
  | expr value =>
      cases value with
      | markup content => simp [loweredChildren, lower, Node.children, Expr.children, Expr.lower]
      | _ => cases wrapper
  | markup content => exact absurd rfl (other content)
  | attr given =>
      cases given <;> simp [loweredChildren, lower, Node.children, Attribute.children,
        Attribute.lower, Entry.content]
  | attributeValue owner value =>
      cases value <;> simp [loweredChildren, lower, Node.children, AttributeValue.children,
        AttributeValue.lower]
  | braced content =>
      cases content <;> simp [loweredChildren, lower, Node.children, Braced.children,
        Braced.lower]
  | child value =>
      cases value <;> simp [loweredChildren, lower, Node.children, Child.children, Child.lower,
        LoweredChild.content?]
  | _ => cases wrapper

theorem exists_around_of_part (node : Node) {inner : Node}
    (membership : inner ∈ node.loweredChildren targets) :
    ∃ after ∈ (node.lower targets).value, inner ∈ after.preorder := by
  cases plain : node.isMarkup with
  | false =>
      obtain ⟨after, kept⟩ := keeps targets plain
      refine ⟨after, by simp [kept.value], mem_preorder_of_mem_children ?_⟩
      rwa [kept.children]
  | true =>
      by_cases content : ∃ content, node = markup content
      · obtain ⟨content, rfl⟩ := content
        exact ⟨_, List.mem_singleton_self _, loweredChildren_subset targets content membership⟩
      · have among := loweredChildren_subset_of_wrapper targets plain (not_exists.mp content)
        exact ⟨inner, among membership, inner.mem_preorder_self⟩

/-- What takes the place of a node stands within what takes the place of a node above it. -/
theorem exists_around {node : Node} {inner : Node} (below : inner ∈ node.preorder) {after : Node}
    (lowered : after ∈ (inner.lower targets).value) :
    ∃ result ∈ (node.lower targets).value, after ∈ result.preorder := by
  induction node using Node.induction with
  | step node inductionHypothesis =>
      rw [preorder_eq] at below
      rcases List.mem_cons.mp below with rfl | deeper
      · exact ⟨after, lowered, after.mem_preorder_self⟩
      · obtain ⟨part, membership, inside⟩ := List.mem_flatMap.mp deeper
        obtain ⟨between, placed, within⟩ := inductionHypothesis part membership inside
        obtain ⟨result, final, around⟩ := exists_around_of_part targets node
          (List.mem_flatMap.mpr ⟨part, membership, placed⟩)
        exact ⟨result, final, mem_preorder_trans within around⟩

end Node

theorem Program.markup_mem_nodes {program : Program} {span : Span} {content : Markup}
    (membership : .expression span (.markup content) ∈ program.body) :
    Node.markup content ∈ program.nodes := by
  refine List.mem_flatMap.mpr ⟨_, membership, ?_⟩
  refine Node.mem_preorder_of_part ?_ (List.mem_singleton_self _)
  exact Node.mem_preorder_of_mem_children (List.mem_singleton_self _)

theorem Program.mem_nodes_of_mem_preorder {program : Program} {node below : Node}
    (inside : below ∈ node.preorder) (membership : node ∈ program.nodes) :
    below ∈ program.nodes := by
  obtain ⟨statement, member, within⟩ := List.mem_flatMap.mp membership
  exact List.mem_flatMap.mpr ⟨statement, member, Node.mem_preorder_trans inside within⟩

/-- What takes the place of a node is found in the lowered program. -/
theorem Program.mem_nodes_of_mem_lower {options : Options} {program : Program} {lowered : Lowered}
    (accepted : (transform options program).outcome = .ok lowered) {node after : Node}
    (membership : node ∈ program.nodes)
    (placed : after ∈ (node.lower (program.targets options)).value) :
    after ∈ lowered.program.nodes := by
  obtain ⟨_, rfl⟩ := (outcome_eq_ok_iff options program lowered).mp accepted
  obtain ⟨statement, member, below⟩ := List.mem_flatMap.mp membership
  obtain ⟨result, final, around⟩ := Node.exists_around (program.targets options) below placed
  obtain rfl := List.mem_singleton.mp final
  refine List.mem_flatMap.mpr ⟨_, ?_, around⟩
  rw [lowerBody, Report.value_mapM]
  exact List.mem_map_of_mem member

/-- What a piece of markup becomes is found in the lowered program. -/
theorem Program.lowered_mem_nodes {options : Options} {program : Program} {lowered : Lowered}
    (accepted : (transform options program).outcome = .ok lowered) {content : Markup}
    (membership : Node.markup content ∈ program.nodes) :
    Node.expr (content.lower (program.targets options)).value ∈ lowered.program.nodes :=
  mem_nodes_of_mem_lower accepted membership (List.mem_singleton_self _)

end JsxLowering
