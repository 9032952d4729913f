import Mathlib.Algebra.BigOperators.Group.List.Basic
import JsxLowering.Lowering.Walk

set_option autoImplicit false

/-!
Reports as a lawful monad. A report is a value with an effect, which is all that it
reports; effects add up, and the effect of a sequence of steps is the sum of theirs.

The list functions of the lowering are `mapM` in this monad, so that a statement about
one node carries over to a list of nodes without another induction.
-/

namespace JsxLowering

/-- What a step reports beside its value. -/
@[ext]
structure Effect where
  diagnostics : List Diagnostic
  events : List Event
  count : Nat

namespace Effect

instance : Zero Effect := ⟨⟨[], [], 0⟩⟩

instance : Add Effect where
  add first second :=
    ⟨first.diagnostics ++ second.diagnostics, first.events ++ second.events,
      first.count + second.count⟩

@[simp]
theorem diagnostics_zero : (0 : Effect).diagnostics = [] := rfl

@[simp]
theorem events_zero : (0 : Effect).events = [] := rfl

@[simp]
theorem count_zero : (0 : Effect).count = 0 := rfl

@[simp]
theorem diagnostics_add (first second : Effect) :
    (first + second).diagnostics = first.diagnostics ++ second.diagnostics := rfl

@[simp]
theorem events_add (first second : Effect) :
    (first + second).events = first.events ++ second.events := rfl

@[simp]
theorem count_add (first second : Effect) :
    (first + second).count = first.count + second.count := rfl

instance : AddMonoid Effect where
  zero_add effect := by ext1 <;> simp
  add_zero effect := by ext1 <;> simp
  add_assoc first second third := by ext1 <;> simp [Nat.add_assoc]
  nsmul := nsmulRec

@[simp]
theorem diagnostics_sum (effects : List Effect) :
    effects.sum.diagnostics = effects.flatMap diagnostics := by
  induction effects with
  | nil => rfl
  | cons effect rest inductionHypothesis => simp [inductionHypothesis]

@[simp]
theorem events_sum (effects : List Effect) : effects.sum.events = effects.flatMap events := by
  induction effects with
  | nil => rfl
  | cons effect rest inductionHypothesis => simp [inductionHypothesis]

end Effect

namespace Report

variable {α β : Type}

/-- All that is reported. -/
def effect (report : Report α) : Effect := ⟨report.diagnostics, report.events, report.count⟩

@[ext]
theorem ext {first second : Report α} (value : first.value = second.value)
    (effect : first.effect = second.effect) : first = second := by
  cases first
  cases second
  simp_all [Report.effect]

@[simp]
theorem value_pure (value : α) : (pure value : Report α).value = value := rfl

@[simp]
theorem effect_pure (value : α) : (pure value : Report α).effect = 0 := rfl

@[simp]
theorem value_bind (first : Report α) (next : α → Report β) :
    (first >>= next).value = (next first.value).value := rfl

@[simp]
theorem effect_bind (first : Report α) (next : α → Report β) :
    (first >>= next).effect = first.effect + (next first.value).effect := rfl

theorem andThen_silent (report : Report α) : report.andThen silent = report := by
  simp [andThen, silent]

theorem andThen_assoc {γ : Type} (report : Report α) (first : α → Report β)
    (second : β → Report γ) :
    (report.andThen first).andThen second =
      report.andThen fun value => (first value).andThen second := by
  simp [andThen, Nat.add_assoc]

instance : LawfulMonad Report :=
  LawfulMonad.mk' Report andThen_silent (fun _ _ => by ext1 <;> simp) andThen_assoc

@[simp]
theorem value_map (change : α → β) (report : Report α) :
    (change <$> report).value = change report.value := rfl

@[simp]
theorem effect_map (change : α → β) (report : Report α) :
    (change <$> report).effect = report.effect := by
  simp [← bind_pure_comp]

@[simp]
theorem value_mapM (step : α → Report β) (values : List α) :
    (values.mapM step).value = values.map fun value => (step value).value := by
  induction values with
  | nil => simp
  | cons value rest inductionHypothesis => simp [inductionHypothesis]

@[simp]
theorem effect_mapM (step : α → Report β) (values : List α) :
    (values.mapM step).effect = (values.map fun value => (step value).effect).sum := by
  induction values with
  | nil => simp
  | cons value rest inductionHypothesis => simp [inductionHypothesis]

end Report

variable (targets : Targets)

@[simp]
theorem lowerParts_eq (parts : List Part) :
    lowerParts targets parts = parts.mapM (Part.lower targets) := by
  induction parts with
  | nil => rfl
  | cons part rest inductionHypothesis => simp [lowerParts, inductionHypothesis]

@[simp]
theorem lowerExprs_eq (values : List Expr) :
    lowerExprs targets values = values.mapM (Expr.lower targets) := by
  induction values with
  | nil => rfl
  | cons value rest inductionHypothesis => simp [lowerExprs, inductionHypothesis]

@[simp]
theorem lowerItems_eq (items : List Item) :
    lowerItems targets items = items.mapM (Item.lower targets) := by
  induction items with
  | nil => rfl
  | cons item rest inductionHypothesis => simp [lowerItems, inductionHypothesis]

@[simp]
theorem lowerProperties_eq (properties : List Property) :
    lowerProperties targets properties = properties.mapM (Property.lower targets) := by
  induction properties with
  | nil => rfl
  | cons property rest inductionHypothesis => simp [lowerProperties, inductionHypothesis]

@[simp]
theorem lowerAttributes_eq (attributes : List Attribute) :
    lowerAttributes targets attributes = attributes.mapM (Attribute.lower targets) := by
  induction attributes with
  | nil => rfl
  | cons given rest inductionHypothesis => simp [lowerAttributes, inductionHypothesis]

@[simp]
theorem lowerChildren_eq (children : List Child) :
    lowerChildren targets children = List.flatten <$> children.mapM (Child.lower targets) := by
  induction children with
  | nil => rfl
  | cons child rest inductionHypothesis => simp [lowerChildren, inductionHypothesis]

@[simp]
theorem lowerStatements_eq (statements : List Statement) :
    lowerStatements targets statements = statements.mapM (Statement.lower targets) := by
  induction statements with
  | nil => rfl
  | cons statement rest inductionHypothesis => simp [lowerStatements, inductionHypothesis]

@[simp]
theorem lowerDeclarators_eq (declarators : List Declarator) :
    lowerDeclarators targets declarators = declarators.mapM (Declarator.lower targets) := by
  induction declarators with
  | nil => rfl
  | cons declarator rest inductionHypothesis => simp [lowerDeclarators, inductionHypothesis]

end JsxLowering
