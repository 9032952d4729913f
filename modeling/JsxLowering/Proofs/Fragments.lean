import JsxLowering.Proofs.Placement
import JsxLowering.Proofs.Trimming

set_option autoImplicit false

/-!
The children of elements and fragments. An element hands its children over as one array after all
other arguments, and it is the array that a fragment with these children becomes. Only texts with
nothing in them are no children: a fragment of such texts is an empty array, and an element has no
argument for them. White space is a child, and never trimmed away to nothing.
-/

namespace JsxLowering

/-- There is nothing in the text. -/
def Child.IsEmptyText : Child → Prop
  | .text _ value _ => value = ""
  | _ => False

/-- How many arguments stand before the children. -/
def Mode.argumentCount : Mode → Nat
  | .targeted => 1
  | _ => 2

section

variable (targets : Targets)

theorem Child.value_lower_eq_nil_iff (child : Child) :
    (child.lower targets).value = [] ↔ child.IsEmptyText := by
  cases child with
  | text span value raw => simp [Child.lower, textChildren, IsEmptyText]
  | _ => simp [Child.lower, IsEmptyText]

theorem lowerChildren_eq_nil_iff (children : List Child) :
    (lowerChildren targets children).value = [] ↔ ∀ child ∈ children, child.IsEmptyText := by
  simp [Child.value_lower_eq_nil_iff]

theorem Targets.length_leading (tag : Tag) :
    (targets.callHead tag).value.leading.length + 1 = targets.mode.argumentCount := by
  unfold callHead
  cases targets.mode <;> rfl

end

/-- The arguments of an element's call end in an array of its children, if it has any. Then the
array has the span of the element, and the entries that a fragment with these children has. -/
structure CarriesChildren (targets : Targets) (span : Span) (children : List Child)
    (arguments : List Item) : Prop where
  present : arguments.length = targets.mode.argumentCount + 1 ↔
    ∃ child ∈ children, ¬ child.IsEmptyText
  absent : arguments.length = targets.mode.argumentCount ↔
    ∀ child ∈ children, child.IsEmptyText
  last : ∀ argument, arguments[targets.mode.argumentCount]? = some argument →
    ∃ entries, argument = .expr (.array span entries) ∧
      ∀ other, ((Markup.fragment other children).lower targets).value = .array other entries

section

variable (targets : Targets) (span : Span) (children : List Child)

theorem childrenArgument_of_all_empty (nothing : ∀ child ∈ children, child.IsEmptyText) :
    childrenArgument span (lowerChildren targets children).value = [] := by
  rw [(lowerChildren_eq_nil_iff targets children).mpr nothing]
  rfl

theorem childrenArgument_of_not_all_empty
    (something : ¬ ∀ child ∈ children, child.IsEmptyText) :
    childrenArgument span (lowerChildren targets children).value =
      [.expr (LoweredChild.toArray span (lowerChildren targets children).value)] := by
  have left : LoweredChild.normalize (lowerChildren targets children).value ≠ [] := by
    rw [Ne, LoweredChild.normalize_eq_nil_iff, lowerChildren_eq_nil_iff]
    exact something
  rw [childrenArgument, if_neg (by simpa using left)]

theorem carriesChildren {front : List Item} (count : front.length = targets.mode.argumentCount) :
    CarriesChildren targets span children
      (front ++ childrenArgument span (lowerChildren targets children).value) := by
  by_cases nothing : ∀ child ∈ children, child.IsEmptyText
  · rw [childrenArgument_of_all_empty targets span children nothing, List.append_nil]
    refine ⟨?_, ?_, ?_⟩
    · simpa [count] using nothing
    · simpa [count] using nothing
    · simp [← count]
  · rw [childrenArgument_of_not_all_empty targets span children nothing]
    refine ⟨?_, ?_, ?_⟩
    · simpa [count] using nothing
    · simpa [count] using nothing
    · intro argument there
      rw [← count, List.getElem?_append_right (Nat.le_refl _), Nat.sub_self] at there
      cases there
      exact ⟨_, rfl, fun _ => rfl⟩

theorem lower_element (opening : Span) (tag : Tag) (attributes : List Attribute) :
    ∃ callee arguments,
      ((Markup.element span opening tag attributes children).lower targets).value =
          .call span callee arguments ∧
        CarriesChildren targets span children arguments := by
  refine ⟨_, _, rfl, ?_⟩
  rw [List.append_cons]
  apply carriesChildren
  rw [List.length_append, List.length_singleton]
  exact targets.length_leading tag

theorem lower_fragment :
    ∃ entries, ((Markup.fragment span children).lower targets).value = .array span entries ∧
      (entries = [] ↔ ∀ child ∈ children, child.IsEmptyText) := by
  refine ⟨_, rfl, ?_⟩
  rw [List.map_eq_nil_iff, LoweredChild.normalize_eq_nil_iff]
  exact lowerChildren_eq_nil_iff targets children

end

/-- Elements and fragments agree on their children, in every mode. The call that an element of a
program becomes ends in an array of children exactly if there is a child that is more than a text
with nothing in it, and the array is that of a fragment with the same children; a fragment becomes
an array, which is empty exactly if there is no such child. -/
theorem transform_children_agree (options : Options) (program : Program) :
    (∀ span opening tag attributes children,
      Node.markup (.element span opening tag attributes children) ∈ program.nodes →
      ∃ callee arguments,
        ((Markup.element span opening tag attributes children).lower
          (program.targets options)).value = .call span callee arguments ∧
        CarriesChildren (program.targets options) span children arguments ∧
        ∀ lowered, (transform options program).outcome = .ok lowered →
          Node.expr (.call span callee arguments) ∈ lowered.program.nodes) ∧
    (∀ span children, Node.markup (.fragment span children) ∈ program.nodes →
      ∃ entries,
        ((Markup.fragment span children).lower (program.targets options)).value =
          .array span entries ∧
        (entries = [] ↔ ∀ child ∈ children, child.IsEmptyText) ∧
        ∀ lowered, (transform options program).outcome = .ok lowered →
          Node.expr (.array span entries) ∈ lowered.program.nodes) := by
  constructor
  · intro span opening tag attributes children membership
    obtain ⟨callee, arguments, call, carries⟩ :=
      lower_element (program.targets options) span children opening tag attributes
    refine ⟨callee, arguments, call, carries, ?_⟩
    intro lowered accepted
    rw [← call]
    exact Program.lowered_mem_nodes accepted membership
  · intro span children membership
    obtain ⟨entries, array, empty⟩ := lower_fragment (program.targets options) span children
    refine ⟨entries, array, empty, ?_⟩
    intro lowered accepted
    rw [← array]
    exact Program.lowered_mem_nodes accepted membership

/-- The program `<p>   </p>`, read with a text that has nothing in it before the white space. -/
def Program.blankParagraph : Program where
  source := "<p>   </p>"
  comments := []
  directives := []
  body :=
    [.expression ⟨0, 10⟩ (.markup (.element ⟨0, 10⟩ ⟨0, 3⟩ (.intrinsic ⟨⟨1, 2⟩, "p"⟩) []
      [.text ⟨3, 3⟩ "" none, .text ⟨3, 6⟩ "   " none]))]

theorem transform_children_agree_blank_paragraph :
    ∃ callee arguments lowered,
      (transform .standard .blankParagraph).outcome = .ok lowered ∧
      Node.expr (.call ⟨0, 10⟩ callee arguments) ∈ lowered.program.nodes ∧
      arguments.length = 3 ∧
      arguments[2]? = some (.expr (.array ⟨0, 10⟩ [.expr (.string ⟨3, 3⟩ "")])) := by
  have membership : Node.markup (.element ⟨0, 10⟩ ⟨0, 3⟩ (.intrinsic ⟨⟨1, 2⟩, "p"⟩) []
      [.text ⟨3, 3⟩ "" none, .text ⟨3, 6⟩ "   " none]) ∈ Program.blankParagraph.nodes := by
    refine List.mem_flatMap.mpr ⟨_, List.mem_singleton_self _, ?_⟩
    refine Node.mem_preorder_of_part ?_ (List.mem_singleton_self _)
    exact Node.mem_preorder_of_mem_children (List.mem_singleton_self _)
  obtain ⟨callee, arguments, call, carries, found⟩ :=
    (transform_children_agree .standard .blankParagraph).1 _ _ _ _ _ membership
  have something : arguments.length = 3 := by
    refine carries.present.mpr ⟨.text ⟨3, 6⟩ "   " none, by simp, ?_⟩
    simp [Child.IsEmptyText]
  cases call
  exact ⟨_, _, _, rfl, found _ rfl, something, rfl⟩

end JsxLowering
