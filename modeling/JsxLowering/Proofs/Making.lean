import JsxLowering.Proofs.AccessPath
import JsxLowering.Proofs.Diagnostics
import JsxLowering.Proofs.Fragments
import JsxLowering.Proofs.Nesting

set_option autoImplicit false

/-!
What lowering makes. A node of a lowered program is kept from outside of markup, or it belongs to
the callee of an element, or it is a key for the name of an attribute, or it is one of a few kinds
of nodes that hold other nodes or a value but no name. What holds of all of these holds throughout
the lowered program.
-/

namespace JsxLowering

/-- The texts that an attribute with the given name, or a spread, needs keys for. -/
def Mode.keyTexts : Mode → Option String → List String
  | .grouped, name? => spaceOf name? :: (name?.map fun name => (splitNamespace name).2).toList
  | _, name? => name?.toList

/-- The name of an attribute that is no spread. -/
def Attribute.name? : Attribute → Option String
  | .named _ name _ => some name.text
  | .spread _ _ => none

namespace Entry

theorem names_lowerAttributes (targets : Targets) (attributes : List Attribute) :
    (lowerAttributes targets attributes).value.map name? = attributes.map Attribute.name? := by
  rw [lowerAttributes_eq, Report.value_mapM, List.map_map]
  apply List.map_congr_left
  intro given _
  cases given <;> rfl

end Entry

namespace Node

/-- Whether the node is of a kind that lowering makes to hold other nodes or a value, but no
name. -/
def isFrame : Node → Bool
  | expr (.string ..) | expr (.boolean ..) | expr (.null _) | expr (.this _) | expr (.call ..)
  | expr (.array ..) | expr (.object ..) | item _ | property _ => true
  | _ => false

section

variable {holds : Node → Prop} (frames : ∀ node : Node, node.isFrame = true → holds node)

include frames

theorem throughout_frame {node : Node} (frame : node.isFrame = true)
    (parts : ∀ part ∈ node.children, part.Throughout holds) : node.Throughout holds :=
  throughout_iff.mpr ⟨frames node frame, parts⟩

theorem throughout_leaf {node : Node} (frame : node.isFrame = true) (leaf : node.children = []) :
    node.Throughout holds :=
  throughout_frame frames frame (by simp [leaf])

theorem throughout_frame_of_part {node part : Node} (frame : node.isFrame = true)
    (single : node.children = [part]) (inner : part.Throughout holds) :
    node.Throughout holds :=
  throughout_frame frames frame (by simpa [single] using inner)

theorem throughout_plainProperty {name : String}
    (word : ∀ span, holds (key (propertyKey name span))) (span : Span) {value : Expr}
    (inner : (expr value).Throughout holds) :
    (property (plainProperty span name value)).Throughout holds := by
  apply throughout_frame frames rfl
  intro part membership
  rcases List.mem_pair.mp membership with rfl | rfl
  · refine throughout_iff.mpr ⟨word span, ?_⟩
    unfold propertyKey
    split
    · simp [Node.children, Key.children]
    · intro part membership
      obtain rfl := List.mem_singleton.mp membership
      exact throughout_leaf frames rfl rfl
  · exact inner

theorem throughout_objectOrNull (span : Span) {properties : List Property}
    (parts : ∀ given ∈ properties, (property given).Throughout holds) :
    (expr (objectOrNull span properties)).Throughout holds := by
  unfold objectOrNull
  split
  · exact throughout_leaf frames rfl rfl
  · apply throughout_frame frames rfl
    intro part membership
    obtain ⟨given, there, rfl⟩ := List.mem_map.mp membership
    exact parts given there

theorem throughout_flatProps {entries : List Entry}
    (words : ∀ entry ∈ entries, ∀ text ∈ entry.name?, ∀ span, holds (key (propertyKey text span)))
    (contents : ∀ entry ∈ entries, (expr entry.content).Throughout holds) (span : Span) :
    (expr (flatProps span entries)).Throughout holds := by
  apply throughout_objectOrNull frames
  intro given membership
  obtain ⟨entry, there, rfl⟩ := List.mem_map.mp membership
  have inner := contents entry there
  cases entry with
  | property place name value =>
      exact throughout_plainProperty frames (words _ there name rfl) place inner
  | spread place argument => exact throughout_frame_of_part frames rfl rfl inner

theorem throughout_inGroup {entry : Entry}
    (words : ∀ text ∈ Mode.grouped.keyTexts entry.name?, ∀ span,
      holds (key (propertyKey text span)))
    (inner : (expr entry.content).Throughout holds) :
    (property entry.inGroup).Throughout holds := by
  cases entry with
  | property place name value =>
      have word := words (splitNamespace name).2 (by simp [Mode.keyTexts, Entry.name?])
      exact throughout_plainProperty frames word place inner
  | spread place argument => exact throughout_frame_of_part frames rfl rfl inner

theorem throughout_groupedProps {entries : List Entry}
    (words : ∀ entry ∈ entries, ∀ text ∈ Mode.grouped.keyTexts entry.name?, ∀ span,
      holds (key (propertyKey text span)))
    (contents : ∀ entry ∈ entries, (expr entry.content).Throughout holds) (span : Span) :
    (expr (groupedProps span entries)).Throughout holds := by
  have partition := Group.partition_ofEntries entries
  apply throughout_objectOrNull frames
  intro given membership
  obtain ⟨group, there, rfl⟩ := List.mem_map.mp membership
  obtain ⟨entry, inside, same⟩ :=
    List.mem_map.mp ((partition.spaces group.space).mp (List.mem_map_of_mem there))
  obtain ⟨first, rest, members, _, properties⟩ := partition.each group there
  apply throughout_plainProperty frames
  · rw [← same]
    exact words entry inside _ List.mem_cons_self
  · apply throughout_objectOrNull frames
    rw [properties, ← members]
    intro given membership
    obtain ⟨other, chosen, rfl⟩ := List.mem_map.mp membership
    have known := List.mem_of_mem_filter chosen
    exact throughout_inGroup frames (words other known) (contents other known)

theorem throughout_props (mode : Mode) {entries : List Entry}
    (words : ∀ entry ∈ entries, ∀ text ∈ mode.keyTexts entry.name?, ∀ span,
      holds (key (propertyKey text span)))
    (contents : ∀ entry ∈ entries, (expr entry.content).Throughout holds) (span : Span) :
    (expr (props mode span entries)).Throughout holds := by
  cases mode with
  | grouped => exact throughout_groupedProps frames words contents span
  | _ =>
      refine throughout_flatProps frames ?_ contents span
      exact fun entry there text given => words entry there text (Option.mem_toList.mpr given)

theorem throughout_toArray {children : List LoweredChild}
    (contents : ∀ value ∈ children.filterMap LoweredChild.content?,
      (expr value).Throughout holds) (span : Span) :
    (expr (LoweredChild.toArray span children)).Throughout holds := by
  rw [← LoweredChild.content_normalize] at contents
  apply throughout_frame frames rfl
  intro part membership
  simp only [LoweredChild.toArray, Node.children, Expr.children, List.map_map, List.mem_map,
    Function.comp_apply] at membership
  obtain ⟨child, there, rfl⟩ := membership
  cases child with
  | text content =>
      exact throughout_frame_of_part frames rfl rfl (throughout_leaf frames rfl rfl)
  | expr value =>
      have inner := contents value (List.mem_filterMap.mpr ⟨_, there, rfl⟩)
      exact throughout_frame_of_part frames rfl rfl inner
  | spread place argument =>
      have inner := contents argument (List.mem_filterMap.mpr ⟨_, there, rfl⟩)
      exact throughout_frame_of_part frames rfl rfl inner

theorem throughout_childrenArgument {span : Span} {children : List LoweredChild}
    (contents : ∀ value ∈ children.filterMap LoweredChild.content?,
      (expr value).Throughout holds) :
    ∀ argument ∈ childrenArgument span children, (item argument).Throughout holds := by
  intro argument membership
  unfold childrenArgument at membership
  split at membership
  · cases membership
  · obtain rfl := List.mem_singleton.mp membership
    exact throughout_frame_of_part frames rfl rfl (throughout_toArray frames contents span)

theorem throughout_leading {targets : Targets} {tag : Tag} :
    ∀ argument ∈ (targets.callHead tag).value.leading, (item argument).Throughout holds := by
  have label : (item (.expr (.string tag.span tag.label))).Throughout holds :=
    throughout_frame_of_part frames rfl rfl (throughout_leaf frames rfl rfl)
  unfold Targets.callHead
  cases targets.mode with
  | targeted => simp
  | _ => simpa using label

end

section

variable (targets : Targets) (holds : Node → Prop)

/-- Something holds of all that is made for the node, what is made for its parts apart. -/
structure Sourced (node : Node) : Prop where
  kept : node.isMarkup = false → ∀ after, (node.lower targets).value = [after] → holds after
  callee : ∀ span opening tag attributes children,
    node = markup (.element span opening tag attributes children) →
    (expr (targets.callHead tag).value.callee).Throughout holds
  keys : ∀ span opening tag attributes children,
    node = markup (.element span opening tag attributes children) →
    ∀ given ∈ attributes, ∀ text ∈ targets.mode.keyTexts given.name?, ∀ place,
      holds (key (propertyKey text place))

variable {targets holds}

/-- What stands around the parts of markup leaves what the parts leave, or a value. -/
theorem mem_loweredChildren_or_isFrame {node : Node} (wrapper : node.isMarkup = true)
    (other : ∀ content, node ≠ markup content) {after : Node}
    (membership : after ∈ (node.lower targets).value) :
    after ∈ node.loweredChildren targets ∨ after.isFrame = true ∧ after.children = [] := by
  cases node with
  | expr value =>
      cases value with
      | markup content =>
          left
          simpa [loweredChildren, lower, Node.children, Expr.children, Expr.lower] using membership
      | _ => cases wrapper
  | markup content => exact absurd rfl (other content)
  | attr given =>
      left
      cases given <;> simpa [loweredChildren, lower, Node.children, Attribute.children,
        Attribute.lower, Entry.content] using membership
  | attributeValue owner value =>
      cases value with
      | bare =>
          obtain rfl := List.mem_singleton.mp membership
          exact .inr ⟨rfl, rfl⟩
      | text span value =>
          obtain rfl := List.mem_singleton.mp membership
          exact .inr ⟨rfl, rfl⟩
      | _ =>
          left
          simpa [loweredChildren, lower, Node.children, AttributeValue.children,
            AttributeValue.lower] using membership
  | braced content =>
      cases content with
      | empty span =>
          obtain rfl := List.mem_singleton.mp membership
          exact .inr ⟨rfl, rfl⟩
      | expr value =>
          left
          simpa [loweredChildren, lower, Node.children, Braced.children, Braced.lower] using
            membership
  | child value =>
      left
      cases value with
      | text span value raw =>
          by_cases empty : value = "" <;> simp [lower, Child.lower, textChildren, empty,
            LoweredChild.content?] at membership
      | _ =>
          simpa [loweredChildren, lower, Node.children, Child.children, Child.lower,
            LoweredChild.content?] using membership
  | _ => cases wrapper

variable (frames : ∀ node : Node, node.isFrame = true → holds node)

include frames

theorem throughout_markup {content : Markup} (sourced : (markup content).Sourced targets holds)
    (parts : ∀ part ∈ (markup content).loweredChildren targets, part.Throughout holds) :
    (expr (content.lower targets).value).Throughout holds := by
  cases content with
  | element span opening tag attributes children =>
      rw [loweredChildren_of_element, List.forall_mem_append, List.forall_mem_map,
        List.forall_mem_map] at parts
      have keys : ∀ entry ∈ (lowerAttributes targets attributes).value,
          ∀ text ∈ targets.mode.keyTexts entry.name?, ∀ place,
            holds (key (propertyKey text place)) := by
        intro entry there
        have named : entry.name? ∈ attributes.map Attribute.name? := by
          rw [← Entry.names_lowerAttributes targets]
          exact List.mem_map_of_mem there
        obtain ⟨given, member, same⟩ := List.mem_map.mp named
        rw [← same]
        exact sourced.keys _ _ _ _ _ rfl given member
      apply throughout_frame frames rfl
      intro part membership
      simp only [Markup.lower, Report.value_bind, Report.value_pure, elementCall, Node.children,
        Expr.children, List.mem_cons, List.mem_map, List.mem_append] at membership
      rcases membership with rfl | ⟨argument, begins | rfl | ends, rfl⟩
      · exact sourced.callee _ _ _ _ _ rfl
      · exact throughout_leading frames argument begins
      · exact throughout_frame_of_part frames rfl rfl
          (throughout_props frames targets.mode keys parts.1 opening)
      · exact throughout_childrenArgument frames parts.2 argument ends
  | fragment span children =>
      rw [loweredChildren_of_fragment, List.forall_mem_map] at parts
      exact throughout_toArray frames parts span

theorem throughout_lower (node : Node) (sourced : node.Throughout (Sourced targets holds)) :
    ∀ after ∈ (node.lower targets).value, after.Throughout holds := by
  induction node using Node.induction with
  | step node inductionHypothesis =>
      obtain ⟨here, below⟩ := throughout_iff.mp sourced
      have parts : ∀ part ∈ node.loweredChildren targets, part.Throughout holds := by
        intro part membership
        obtain ⟨child, there, lowered⟩ := List.mem_flatMap.mp membership
        exact inductionHypothesis child there (below child there) part lowered
      intro after membership
      cases plain : node.isMarkup with
      | false =>
          obtain ⟨result, kept⟩ := keeps targets plain
          rw [kept.value] at membership
          obtain rfl := List.mem_singleton.mp membership
          refine throughout_iff.mpr ⟨here.kept plain _ kept.value, ?_⟩
          rwa [kept.children]
      | true =>
          -- Only elements and fragments make anything of their parts.
          by_cases content : ∃ content, node = markup content
          · obtain ⟨content, rfl⟩ := content
            obtain rfl := List.mem_singleton.mp membership
            exact throughout_markup frames here parts
          · rcases mem_loweredChildren_or_isFrame plain (not_exists.mp content) membership with
              inside | ⟨frame, leaf⟩
            · exact parts after inside
            · exact throughout_leaf frames frame leaf

end

end Node

namespace Program

/-- The node is what a node outside of markup is lowered to. -/
def Keeps (options : Options) (program : Program) (after : Node) : Prop :=
  ∃ before ∈ program.nodes, before.isMarkup = false ∧
    (before.lower (program.targets options)).value = [after]

theorem dom_targets {options : Options} (targeted : options.mode = .targeted)
    (program : Program) :
    (program.targets options).dom = .ofPath (program.domTarget options) := by
  simp [targets, Targets.ofOptions, effectiveAnnotations, targeted, domTarget]

theorem components_targets {options : Options} (targeted : options.mode = .targeted)
    (program : Program) :
    (program.targets options).components = (program.componentsTarget? options).map .ofPath := by
  simp [targets, Targets.ofOptions, effectiveAnnotations, targeted, componentsTarget?]

theorem callee_callHead_targeted {options : Options} (targeted : options.mode = .targeted)
    (program : Program) (tag : Tag) :
    ((program.targets options).callHead tag).value.callee =
      ((program.targets options).resolve tag).value := by
  simp [Targets.callHead, targeted]

variable {options : Options} {program : Program} {lowered : Lowered} {holds : Node → Prop}

theorem not_isNamespaced_of_accepted
    (accepted : (transform options program).outcome = .ok lowered)
    (targeted : options.mode = .targeted) {span opening : Span} {tag : Tag}
    {attributes : List Attribute} {children : List Child}
    (membership : Node.markup (.element span opening tag attributes children) ∈ program.nodes) :
    ¬ tag.IsNamespaced := by
  intro namespaced
  have clean := ((outcome_eq_ok_iff options program lowered).mp accepted).1
  rw [diagnostics_lowerBody_targeted targeted] at clean
  refine absurd clean ((complaints_ne_nil_iff program).mpr ⟨_, membership, ?_⟩)
  cases tag with
  | namespaced place space name => exact ⟨place, rfl⟩
  | _ => cases namespaced

/-- What holds of all that is kept and of all that is made holds throughout the lowered program. -/
theorem forall_nodes_of_accepted
    (accepted : (transform options program).outcome = .ok lowered)
    (frames : ∀ node : Node, node.isFrame = true → holds node)
    (keeps : ∀ node, program.Keeps options node → holds node)
    (makes : ∀ span opening tag attributes children,
      Node.markup (.element span opening tag attributes children) ∈ program.nodes →
      (Node.expr ((program.targets options).callHead tag).value.callee).Throughout holds ∧
        ∀ given ∈ attributes, ∀ text ∈ options.mode.keyTexts given.name?, ∀ place,
          holds (.key (propertyKey text place))) :
    ∀ node ∈ lowered.program.nodes, holds node := by
  have sourced : ∀ node ∈ program.nodes, node.Sourced (program.targets options) holds := by
    intro node membership
    constructor
    · exact fun plain after value => keeps after ⟨node, membership, plain, value⟩
    · rintro span opening tag attributes children rfl
      exact (makes _ _ _ _ _ membership).1
    · rintro span opening tag attributes children rfl
      exact (makes _ _ _ _ _ membership).2
  obtain ⟨_, rfl⟩ := (outcome_eq_ok_iff options program lowered).mp accepted
  refine forall_nodes_iff.mpr ?_
  intro after membership
  dsimp only at membership
  rw [lowerBody, Report.value_mapM] at membership
  obtain ⟨statement, member, rfl⟩ := List.mem_map.mp membership
  exact Node.throughout_lower frames (.statement statement)
    (forall_nodes_iff.mp sourced statement member) _ (List.mem_singleton_self _)

end Program

end JsxLowering
