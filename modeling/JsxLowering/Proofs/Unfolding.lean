import JsxLowering.Proofs.Node
import JsxLowering.Proofs.Report
import JsxLowering.Transform

set_option autoImplicit false

/-!
One step of the lowering at any node. `Node.lower` gives the nodes that take the place of
a node: what is no markup keeps its head and gets the lowered parts, and markup leaves
the expressions that it is made of. A program is lowered statement by statement, and its
outcome depends on nothing but the diagnostics of the whole.
-/

namespace JsxLowering

namespace Entry

/-- The expression that an entry holds. -/
def content : Entry → Expr
  | property _ _ value => value
  | spread _ argument => argument

end Entry

namespace LoweredChild

/-- The expression that a child holds. A text holds none. -/
def content? : LoweredChild → Option Expr
  | text _ => none
  | expr value => some value
  | spread _ argument => some argument

end LoweredChild

namespace Tag

/-- What a tag is complained about: a namespaced one cannot be called. -/
def complaints (mode : Mode) : Tag → List Diagnostic
  | namespaced span _ _ =>
      match mode with
      | .targeted => [.namespacedTag span]
      | _ => []
  | _ => []

end Tag

@[simp]
theorem Targets.effect_callHead (targets : Targets) (tag : Tag) :
    (targets.callHead tag).effect = ⟨tag.complaints targets.mode, [], 0⟩ := by
  unfold Targets.callHead
  cases mode : targets.mode with
  | targeted => cases tag <;> rfl
  | _ => cases tag <;> rfl

@[simp]
theorem Report.effect_lowered (event : Event) :
    (Report.lowered event).effect = ⟨[], [event], 1⟩ := rfl

/-- What holds of a root and is kept by each access holds of a whole path. -/
theorem Expr.ofPath_induction {motive : List String → Expr → Prop} (path : DottedPath)
    (root : motive [path.root] (.identifier .nowhere path.root false))
    (step : ∀ words object segment, motive words object →
      motive (words ++ [segment]) (.member .nowhere object ⟨.nowhere, segment⟩)) :
    motive path.segments (.ofPath path) := by
  have chain : ∀ (segments words : List String) (object : Expr), motive words object →
      motive (words ++ segments) (segments.foldl
        (fun object segment => .member .nowhere object ⟨.nowhere, segment⟩) object) := by
    intro segments
    induction segments with
    | nil => simp
    | cons segment rest inductionHypothesis =>
        intro words object holds
        rw [List.foldl_cons, List.append_cons]
        exact inductionHypothesis _ _ (step words object segment holds)
  have whole : path.segments = [path.root] ++ path.members := by
    simp [DottedPath.root, DottedPath.members]
  rw [whole]
  exact chain path.members [path.root] _ root

namespace Node

/-- Lowers a node to the nodes that take its place. -/
def lower (targets : Targets) : Node → Report (List Node)
  | expr value => (fun after => [expr after]) <$> value.lower targets
  | part value => (fun after => [part after]) <$> value.lower targets
  | item value => (fun after => [item after]) <$> value.lower targets
  | property value => (fun after => [property after]) <$> value.lower targets
  | key value => (fun after => [key after]) <$> value.lower targets
  | functionBody value => (fun after => [functionBody after]) <$> value.lower targets
  | markup content => (fun after => [expr after]) <$> content.lower targets
  | attr given => (fun entry => [expr entry.content]) <$> given.lower targets
  | attributeValue owner value => (fun after => [expr after]) <$> value.lower targets owner
  | braced content => (fun after => [expr after]) <$> content.lower targets
  | child value =>
      (fun children => (children.filterMap LoweredChild.content?).map expr) <$> value.lower targets
  | statement value => (fun after => [statement after]) <$> value.lower targets
  | declarator value => (fun after => [declarator after]) <$> value.lower targets

variable (targets : Targets)

/-- The nodes that take the place of a node's parts. -/
def loweredChildren (node : Node) : List Node :=
  node.children.flatMap fun child => (child.lower targets).value

/-- What stands in the place of a node that is no markup. -/
structure Keeps (node after : Node) : Prop where
  value : (node.lower targets).value = [after]
  head : after.head = node.head
  children : after.children = node.loweredChildren targets

attribute [local simp] lower loweredChildren Node.children Node.head lowerOptional lowerAlternative
  List.flatMap_map

attribute [local simp ←] List.map_eq_flatMap

theorem keeps {node : Node} (plain : node.isMarkup = false) :
    ∃ after, Keeps targets node after := by
  cases node with
  | expr value =>
      cases value with
      | markup content => simp [isMarkup] at plain
      | _ => exact ⟨_, rfl, rfl, by simp [Expr.lower, Expr.children]⟩
  | part value => cases value <;> exact ⟨_, rfl, rfl, by simp [Part.lower, Part.children]⟩
  | item value => cases value <;> exact ⟨_, rfl, rfl, by simp [Item.lower, Item.children]⟩
  | property value =>
      cases value <;> exact ⟨_, rfl, rfl, by simp [Property.lower, Property.children]⟩
  | key value => cases value <;> exact ⟨_, rfl, rfl, by simp [Key.lower, Key.children]⟩
  | functionBody value =>
      cases value <;> exact ⟨_, rfl, rfl, by simp [FunctionBody.lower, FunctionBody.children]⟩
  | statement value =>
      cases value with
      | ret span argument =>
          cases argument <;> exact ⟨_, rfl, rfl, by simp [Statement.lower, Statement.children]⟩
      | ifElse span test yes no =>
          cases no <;> exact ⟨_, rfl, rfl, by simp [Statement.lower, Statement.children]⟩
      | _ => exact ⟨_, rfl, rfl, by simp [Statement.lower, Statement.children]⟩
  | declarator value =>
      obtain ⟨span, name, type, init⟩ := value
      cases init <;> exact ⟨_, rfl, rfl, by simp [Declarator.lower, Declarator.children]⟩
  | _ => simp [isMarkup] at plain

/-- What the walk reports when it enters a node. -/
def entering (mode : Mode) : Node → Effect
  | markup (.element _ _ tag _ _) => ⟨tag.complaints mode, [], 0⟩
  | _ => 0

/-- What the walk reports when it leaves a node. -/
def leaving : Node → Effect
  | markup (.element span ..) => ⟨[], [.elementLowered span], 1⟩
  | markup (.fragment span _) => ⟨[], [.fragmentLowered span], 1⟩
  | _ => 0

attribute [local simp] entering leaving Function.comp_def

/-- A node reports what its parts report, after what it reports on being entered and
before what it reports on being left. -/
theorem effect_lower (node : Node) :
    (node.lower targets).effect =
      node.entering targets.mode +
        (node.children.map fun child => (child.lower targets).effect).sum + node.leaving := by
  cases node with
  | expr value => cases value <;> simp [Expr.lower, Expr.children]
  | part value => cases value <;> simp [Part.lower, Part.children]
  | item value => cases value <;> simp [Item.lower, Item.children]
  | property value => cases value <;> simp [Property.lower, Property.children]
  | key value => cases value <;> simp [Key.lower, Key.children]
  | functionBody value => cases value <;> simp [FunctionBody.lower, FunctionBody.children]
  | markup content => cases content <;> simp [Markup.lower, Markup.children, add_assoc]
  | attr given => cases given <;> simp [Attribute.lower, Attribute.children]
  | attributeValue owner value =>
      cases value <;> simp [AttributeValue.lower, AttributeValue.children]
  | braced content => cases content <;> simp [Braced.lower, Braced.children]
  | child value => cases value <;> simp [Child.lower, Child.children]
  | statement value =>
      cases value with
      | ret span argument => cases argument <;> simp [Statement.lower, Statement.children]
      | ifElse span test yes no => cases no <;> simp [Statement.lower, Statement.children]
      | _ => simp [Statement.lower, Statement.children]
  | declarator value =>
      obtain ⟨span, name, type, init⟩ := value
      cases init <;> simp [Declarator.lower, Declarator.children]

end Node

namespace Program

/-- The targets that a program is lowered with. -/
def targets (options : Options) (program : Program) : Targets :=
  .ofOptions options (effectiveAnnotations options program)

@[simp]
theorem mode_targets (options : Options) (program : Program) :
    (program.targets options).mode = options.mode := rfl

/-- The lowering of all statements of a program. -/
def lowerBody (options : Options) (program : Program) : Report (List Statement) :=
  program.body.mapM (Statement.lower (program.targets options))

theorem effect_lowerBody (options : Options) (program : Program) :
    (program.lowerBody options).effect =
      (program.body.map fun statement =>
        ((Node.statement statement).lower (program.targets options)).effect).sum := by
  simp [lowerBody, Node.lower]

end Program

theorem transform_eq (options : Options) (program : Program) :
    transform options program =
      { outcome :=
          if (program.lowerBody options).effect.diagnostics = [] then
            .ok ⟨{ program with body := (program.lowerBody options).value },
              (program.lowerBody options).effect.count⟩
          else .error (program.lowerBody options).effect.diagnostics
        log := headerWarnings options program ++
          overrideEvents (effectiveAnnotations options program) ++
          (program.lowerBody options).effect.events } := by
  simp only [transform, lowerStatements_eq, List.isEmpty_iff]
  rfl

theorem outcome_eq_error_iff (options : Options) (program : Program)
    (diagnostics : List Diagnostic) :
    (transform options program).outcome = .error diagnostics ↔
      diagnostics ≠ [] ∧ diagnostics = (program.lowerBody options).effect.diagnostics := by
  rw [transform_eq]
  by_cases clean : (program.lowerBody options).effect.diagnostics = []
  · simp [clean]
  · simp only [clean, if_false, Except.error.injEq]
    constructor
    · rintro rfl
      exact ⟨clean, rfl⟩
    · rintro ⟨_, rfl⟩
      rfl

theorem outcome_eq_ok_iff (options : Options) (program : Program) (lowered : Lowered) :
    (transform options program).outcome = .ok lowered ↔
      (program.lowerBody options).effect.diagnostics = [] ∧
        lowered = ⟨{ program with body := (program.lowerBody options).value },
          (program.lowerBody options).effect.count⟩ := by
  rw [transform_eq]
  by_cases clean : (program.lowerBody options).effect.diagnostics = []
  · simp only [clean, if_true, Except.ok.injEq, true_and]
    exact eq_comm
  · simp [clean]

end JsxLowering
