import JsxLowering.Proofs.Gathering

set_option autoImplicit false

/-!
Lowering takes all markup out of a program and leaves alone what is no markup. A program
without markup comes out as it went in, with nothing reported, and so a second lowering
changes nothing.
-/

namespace JsxLowering

theorem Report.mapM_eq_pure {α : Type} {step : α → Report α} {values : List α}
    (unchanged : ∀ value ∈ values, step value = pure value) :
    values.mapM step = pure values := by
  induction values with
  | nil => simp
  | cons value rest inductionHypothesis => simp_all

namespace Node

/-- A mark for the nodes that belong to markup. -/
def markup? (node : Node) : Option Unit := if node.isMarkup then some () else none

instance : Selective markup? where
  head node := by simp [markup?]
  made node made := by cases made <;> rfl

theorem filterMap_markup?_eq_nil_iff (nodes : List Node) :
    nodes.filterMap markup? = [] ↔ ∀ node ∈ nodes, node.isMarkup = false := by
  simp [List.filterMap_eq_nil_iff, markup?]

variable (targets : Targets)

/-- Lowering leaves the node as it is and reports nothing. -/
def Unchanged : Node → Prop
  | expr value => value.lower targets = pure value
  | part value => value.lower targets = pure value
  | item value => value.lower targets = pure value
  | property value => value.lower targets = pure value
  | key value => value.lower targets = pure value
  | functionBody value => value.lower targets = pure value
  | statement value => value.lower targets = pure value
  | declarator value => value.lower targets = pure value
  | _ => False

attribute [local simp] Unchanged Node.children Report.mapM_eq_pure

theorem unchanged_step {node : Node} (plain : node.isMarkup = false)
    (parts : ∀ child ∈ node.children, Unchanged targets child) : Unchanged targets node := by
  cases node with
  | expr value =>
      cases value with
      | markup content => simp [isMarkup] at plain
      | _ =>
          simp only [children, Expr.children] at parts
          simp_all [Expr.lower]
  | part value => cases value <;> simp_all [Part.children, Part.lower]
  | item value => cases value <;> simp_all [Item.children, Item.lower]
  | property value => cases value <;> simp_all [Property.children, Property.lower]
  | key value => cases value <;> simp_all [Key.children, Key.lower]
  | functionBody value => cases value <;> simp_all [FunctionBody.children, FunctionBody.lower]
  | statement value =>
      cases value with
      | ret span argument =>
          cases argument <;> simp_all [Statement.children, Statement.lower, lowerOptional]
      | ifElse span test yes no =>
          cases no <;> simp_all [Statement.children, Statement.lower, lowerAlternative]
      | _ => simp_all [Statement.children, Statement.lower]
  | declarator value =>
      obtain ⟨span, name, type, init⟩ := value
      cases init <;> simp_all [Declarator.children, Declarator.lower, lowerOptional]
  | _ => simp [isMarkup] at plain

theorem unchanged_of_preorder (node : Node) :
    (∀ inner ∈ node.preorder, inner.isMarkup = false) → Unchanged targets node := by
  induction node using Node.induction with
  | step node inductionHypothesis =>
      intro free
      rw [preorder_eq] at free
      apply unchanged_step targets (free node (by simp))
      intro child membership
      apply inductionHypothesis child membership
      intro inner below
      exact free inner (List.mem_cons_of_mem _ (List.mem_flatMap.mpr ⟨child, membership, below⟩))

end Node

namespace Program

theorem markupFree_iff (program : Program) :
    program.MarkupFree ↔ program.nodes.filterMap Node.markup? = [] :=
  (Node.filterMap_markup?_eq_nil_iff program.nodes).symm

/-- Before lowering nothing is looked for, so that nothing can be found afterwards. -/
theorem noticing_markup? (targets : Targets) (node : Node) :
    Node.noticing Node.markup? (targets.picked Node.markup?) node = none := by
  have unpicked : ∀ tag, targets.picked Node.markup? tag = none := by
    intro tag
    unfold Targets.picked
    cases targets.bareName? tag <;> rfl
  unfold Node.noticing
  split
  · exact unpicked _
  · split <;> simp_all [Node.markup?]

theorem markupFree_of_accepted {options : Options} {program : Program} {lowered : Lowered}
    (accepted : (transform options program).outcome = .ok lowered) :
    lowered.program.MarkupFree := by
  have alike := program.gather_transform options Node.markup? accepted
  rw [funext (noticing_markup? (program.targets options))] at alike
  exact (markupFree_iff _).mpr (Alike.eq_nil (by simpa using alike))

theorem lowerBody_of_markupFree {program : Program} (free : program.MarkupFree)
    (options : Options) : program.lowerBody options = pure program.body := by
  apply Report.mapM_eq_pure
  intro statement membership
  apply Node.unchanged_of_preorder (program.targets options) (.statement statement)
  intro inner below
  exact free inner (List.mem_flatMap.mpr ⟨statement, membership, below⟩)

theorem outcome_of_markupFree {program : Program} (free : program.MarkupFree)
    (options : Options) : (transform options program).outcome = .ok ⟨program, 0⟩ := by
  rw [outcome_eq_ok_iff, lowerBody_of_markupFree free]
  exact ⟨rfl, rfl⟩

end Program

theorem level_headerWarnings {options : Options} {program : Program} {event : Event}
    (membership : event ∈ headerWarnings options program) : event.level = .warn := by
  unfold headerWarnings at membership
  split at membership
  · obtain ⟨finding, _, warned⟩ := List.mem_filterMap.mp membership
    cases finding <;> cases warned <;> rfl
  · simp at membership

theorem level_overrideEvents {annotations : Header.Annotations} {event : Event}
    (membership : event ∈ overrideEvents annotations) : event.level = .debug := by
  unfold overrideEvents at membership
  rcases List.mem_append.mp membership with dom | components
  · obtain ⟨path, _, rfl⟩ := Option.map_eq_some_iff.mp (Option.mem_toList.mp dom)
    rfl
  · obtain ⟨path, _, rfl⟩ := Option.map_eq_some_iff.mp (Option.mem_toList.mp components)
    rfl

theorem level_ne_trace_of_markupFree {program : Program} (free : program.MarkupFree)
    (options : Options) : ∀ event ∈ (transform options program).log, event.level ≠ .trace := by
  intro event membership
  rw [transform_eq, program.lowerBody_of_markupFree free] at membership
  simp only [Report.effect_pure, Effect.events_zero, List.append_nil, List.mem_append] at membership
  rcases membership with warning | override
  · simp [level_headerWarnings warning]
  · simp [level_overrideEvents override]

/-- Lowering eliminates markup, and keeps a program without any as it is: nothing is counted,
complained about or traced. Hence lowering again, with whatever options, changes nothing. -/
theorem transform_eliminates_markup (options : Options) (program : Program) :
    (∀ lowered, (transform options program).outcome = .ok lowered →
      lowered.program.MarkupFree ∧
        ∀ others, (transform others lowered.program).outcome = .ok ⟨lowered.program, 0⟩) ∧
    (program.MarkupFree →
      (transform options program).outcome = .ok ⟨program, 0⟩ ∧
        ∀ event ∈ (transform options program).log, event.level ≠ .trace) := by
  constructor
  · intro lowered accepted
    have free := Program.markupFree_of_accepted accepted
    exact ⟨free, fun others => Program.outcome_of_markupFree free others⟩
  · intro free
    exact ⟨Program.outcome_of_markupFree free options, level_ne_trace_of_markupFree free options⟩

/-- The program `<a b=<></>/>`. -/
def Program.fragmentInAttribute : Program where
  source := "<a b=<></>/>"
  comments := []
  directives := []
  body :=
    [.expression ⟨0, 12⟩ (.markup (.element ⟨0, 12⟩ ⟨0, 12⟩ (.intrinsic ⟨⟨1, 2⟩, "a"⟩)
      [.named ⟨3, 10⟩ (.plain ⟨⟨3, 4⟩, "b"⟩) (.markup (.fragment ⟨5, 10⟩ []))] []))]

theorem transform_eliminates_markup_in_attribute :
    ∃ lowered, (transform .standard .fragmentInAttribute).outcome = .ok lowered ∧
      lowered.program.MarkupFree ∧
      (transform .standard lowered.program).outcome = .ok ⟨lowered.program, 0⟩ ∧
      ∀ event ∈ (transform .standard lowered.program).log, event.level ≠ .trace := by
  have eliminated := (transform_eliminates_markup .standard .fragmentInAttribute).1 _ rfl
  exact ⟨_, rfl, eliminated.1, (transform_eliminates_markup .standard _).2 eliminated.1⟩

end JsxLowering
