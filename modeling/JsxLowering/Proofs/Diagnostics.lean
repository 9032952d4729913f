import JsxLowering.Proofs.Unfolding
import JsxLowering.Transform

set_option autoImplicit false

/-!
Which programs are rejected, and with what. A node is complained about when it is
entered, so that the diagnostics of a tree stand in the order of its nodes, whatever was
complained about before.
-/

namespace JsxLowering

namespace Node

/-- The span of a namespaced tag, if the node is an element with one. -/
def namespacedTag? : Node → Option Span
  | markup (.element _ _ (.namespaced span _ _) _ _) => some span
  | _ => none

theorem diagnostics_lower (targets : Targets) (node : Node) :
    (node.lower targets).effect.diagnostics =
      node.preorder.flatMap fun inner => (inner.entering targets.mode).diagnostics := by
  induction node using Node.induction with
  | step node inductionHypothesis =>
      have silent : node.leaving.diagnostics = [] := by
        unfold leaving
        split <;> rfl
      have parts : (node.children.flatMap fun child => (child.lower targets).effect.diagnostics) =
          node.children.flatMap fun child =>
            child.preorder.flatMap fun inner => (inner.entering targets.mode).diagnostics :=
        List.flatMap_congr inductionHypothesis
      rw [effect_lower, preorder_eq]
      simp [silent, parts, List.flatMap_map, List.flatMap_assoc]

theorem diagnostics_entering_targeted (node : Node) :
    (node.entering .targeted).diagnostics =
      (node.namespacedTag?.map Diagnostic.namespacedTag).toList := by
  cases node with
  | markup content =>
      cases content with
      | element span opening tag attributes children => cases tag <;> rfl
      | fragment span children => rfl
  | _ => rfl

theorem diagnostics_entering_of_ne {mode : Mode} (other : mode ≠ .targeted) (node : Node) :
    (node.entering mode).diagnostics = [] := by
  cases node with
  | markup content =>
      cases content with
      | element span opening tag attributes children =>
          cases tag <;> cases mode <;> first | rfl | contradiction
      | fragment span children => rfl
  | _ => rfl

end Node

namespace Program

theorem diagnostics_lowerBody (options : Options) (program : Program) :
    (program.lowerBody options).effect.diagnostics =
      program.nodes.flatMap fun node => (node.entering options.mode).diagnostics := by
  rw [effect_lowerBody, nodes, List.flatMap_assoc]
  simp [List.flatMap_map, Node.diagnostics_lower]

/-- The complaints about a program in targeted mode: one for each namespaced tag. -/
def complaints (program : Program) : List Diagnostic :=
  (program.nodes.filterMap Node.namespacedTag?).map Diagnostic.namespacedTag

theorem diagnostics_lowerBody_targeted {options : Options} (targeted : options.mode = .targeted)
    (program : Program) :
    (program.lowerBody options).effect.diagnostics = program.complaints := by
  rw [diagnostics_lowerBody, complaints, List.map_filterMap, List.filterMap_eq_flatMap_toList]
  simp only [targeted, Node.diagnostics_entering_targeted]

theorem complaints_ne_nil_iff (program : Program) :
    program.complaints ≠ [] ↔
      ∃ node ∈ program.nodes, ∃ span, node.namespacedTag? = some span := by
  simp [complaints, List.filterMap_eq_nil_iff, Option.ne_none_iff_exists']

theorem diagnostics_lowerBody_of_ne {options : Options} (other : options.mode ≠ .targeted)
    (program : Program) : (program.lowerBody options).effect.diagnostics = [] := by
  simp [diagnostics_lowerBody, Node.diagnostics_entering_of_ne other]

end Program

/-- Lowering is refused exactly in targeted mode and for programs with a namespaced tag, and
then with one complaint for each such tag, labelled with its span, in the order of the nodes. -/
theorem transform_refuses_namespaced_tags (options : Options) (program : Program)
    (diagnostics : List Diagnostic) :
    (transform options program).outcome = .error diagnostics ↔
      options.mode = .targeted ∧
        (∃ node ∈ program.nodes, ∃ span, node.namespacedTag? = some span) ∧
        diagnostics = (program.nodes.filterMap Node.namespacedTag?).map fun span =>
          { severity := .error
            message := "Namespace tags are not supported"
            help := some "use a member tag such as `<svg.rect>`, or the generic lowering mode"
            labels := [span] } := by
  rw [outcome_eq_error_iff]
  by_cases targeted : options.mode = .targeted
  · rw [Program.diagnostics_lowerBody_targeted targeted, ← program.complaints_ne_nil_iff]
    constructor
    · rintro ⟨refused, rfl⟩
      exact ⟨targeted, refused, rfl⟩
    · rintro ⟨_, refused, rfl⟩
      exact ⟨refused, rfl⟩
  · simp [Program.diagnostics_lowerBody_of_ne targeted, targeted]

end JsxLowering
