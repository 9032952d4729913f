import JsxLowering.Proofs.Gathering

set_option autoImplicit false

/-!
No expression of a program is lost, doubled or moved. The identifiers and the numbers
that a program is written with stand in the lowered program in the same order, or with
grouped properties in some order; the identifiers that lowering makes up itself carry no
reference and can be told apart by that.
-/

namespace JsxLowering

namespace Node

/-- The identifier that a node is, with its place in the source. -/
def identifier? : Node → Option Name
  | expr (.identifier span name _) => some ⟨span, name⟩
  | _ => none

/-- The identifier that a node is, if it carries a reference. -/
def reference? : Node → Option Name
  | expr (.identifier span name true) => some ⟨span, name⟩
  | _ => none

/-- The number that a node is, with its place in the source. -/
def numeral? : Node → Option (Span × (Nat ⊕ Decimal))
  | expr (.number span value) => some (span, .inl value)
  | expr (.fraction span value) => some (span, .inr value)
  | _ => none

instance : Selective reference? where
  head node := by
    cases node with
    | expr value => cases value <;> rfl
    | _ => rfl
  made node made := by cases made <;> rfl

instance : Selective numeral? where
  head node := by
    cases node with
    | expr value => cases value <;> rfl
    | _ => rfl
  made node made := by cases made <;> rfl

/-- The identifier that a node is written with: what is picked from the node, or the tag of
an element if that stays bare. -/
def written? (bare : Name → Bool) (pick : Node → Option Name) : Node → Option Name
  | markup (.element _ _ (.reference name) _ _) => if bare name then some name else none
  | node => pick node

end Node

namespace Program

/-- Whether a plain tag is called as it stands: in targeted mode a tag that is not known,
that no target for components is set for, and that can be an identifier. -/
def staysBare (options : Options) (program : Program) (name : Name) : Bool :=
  options.mode = .targeted && !isKnownTag name.text &&
    (Header.annotations program).components.isNone && options.components.isNone &&
    isIdentifierName name.text

/-- Every identifier of the program carries a reference, as scope analysis leaves it. -/
def Linked (program : Program) : Prop :=
  ∀ node ∈ program.nodes, node.identifier? = node.reference?

variable (options : Options) (program : Program)

theorem components_targets_eq_none_iff (targeted : options.mode = .targeted) :
    (program.targets options).components = none ↔
      (Header.annotations program).components = none ∧ options.components = none := by
  simp [targets, Targets.ofOptions, effectiveAnnotations, targeted]

theorem bareName?_reference (name : Name) :
    (program.targets options).bareName? (.reference name) =
      if program.staysBare options name then some name else none := by
  unfold Targets.bareName? staysBare
  by_cases targeted : options.mode = .targeted
  · simp [targeted, components_targets_eq_none_iff options program targeted, and_assoc]
  · simp [targeted]

theorem picked_reference? (tag : Tag) (span opening : Span) (attributes : List Attribute)
    (children : List Child) :
    (program.targets options).picked Node.reference? tag =
      (Node.markup (.element span opening tag attributes children)).written?
        (program.staysBare options) Node.reference? := by
  cases tag with
  | reference name =>
      rw [Targets.picked, bareName?_reference, Node.written?]
      split <;> rfl
  | _ => rfl

theorem noticing_reference? (node : Node) :
    Node.noticing Node.reference? ((program.targets options).picked Node.reference?) node =
      node.written? (program.staysBare options) Node.reference? := by
  cases node with
  | expr value => cases value <;> rfl
  | markup content =>
      cases content with
      | element span opening tag attributes children =>
          exact picked_reference? options program tag span opening attributes children
      | fragment span children => rfl
  | _ => rfl

theorem noticing_numeral? (targets : Targets) (node : Node) :
    Node.noticing Node.numeral? (targets.picked Node.numeral?) node = node.numeral? := by
  cases node with
  | expr value => cases value <;> rfl
  | markup content =>
      cases content with
      | element span opening tag attributes children =>
          rw [Node.noticing, Targets.picked]
          cases targets.bareName? tag <;> rfl
      | fragment span children => rfl
  | _ => rfl

variable {options program}

theorem references_of_accepted {lowered : Lowered}
    (accepted : (transform options program).outcome = .ok lowered) :
    Alike options.mode (lowered.program.nodes.filterMap Node.reference?)
      (program.nodes.filterMap
        (Node.written? (program.staysBare options) Node.reference?)) := by
  have alike := program.gather_transform options Node.reference? accepted
  rw [funext (noticing_reference? options program)] at alike
  exact alike

theorem numerals_of_accepted {lowered : Lowered}
    (accepted : (transform options program).outcome = .ok lowered) :
    Alike options.mode (lowered.program.nodes.filterMap Node.numeral?)
      (program.nodes.filterMap Node.numeral?) := by
  have alike := program.gather_transform options Node.numeral? accepted
  rw [funext (noticing_numeral? (program.targets options))] at alike
  exact alike

theorem written_of_linked (linked : program.Linked) (bare : Name → Bool) :
    program.nodes.filterMap (Node.written? bare Node.identifier?) =
      program.nodes.filterMap (Node.written? bare Node.reference?) := by
  apply List.filterMap_congr
  intro node membership
  unfold Node.written?
  split
  · rfl
  · exact linked node membership

end Program

/-- The identifiers and the numbers of an accepted program are found again in the lowered
program, each once and in the order of the walk, or with grouped properties in some order.
The identifiers are those that carry a reference, which before lowering all of them do, and
a tag that stays bare is one of them. -/
theorem transform_preserves_expressions (options : Options) (program : Program)
    {lowered : Lowered} (accepted : (transform options program).outcome = .ok lowered) :
    Alike options.mode (lowered.program.nodes.filterMap Node.reference?)
      (program.nodes.filterMap
        (Node.written? (program.staysBare options) Node.reference?)) ∧
    (program.Linked →
      Alike options.mode (lowered.program.nodes.filterMap Node.reference?)
        (program.nodes.filterMap
          (Node.written? (program.staysBare options) Node.identifier?))) ∧
    Alike options.mode (lowered.program.nodes.filterMap Node.numeral?)
      (program.nodes.filterMap Node.numeral?) := by
  have references := Program.references_of_accepted accepted
  refine ⟨references, ?_, Program.numerals_of_accepted accepted⟩
  intro linked
  rw [Program.written_of_linked linked]
  exact references

/-- The program `<Foo a={x}>{1}</Foo>`. -/
def Program.bareTag : Program where
  source := "<Foo a={x}>{1}</Foo>"
  comments := []
  directives := []
  body :=
    [.expression ⟨0, 20⟩ (.markup (.element ⟨0, 20⟩ ⟨0, 11⟩ (.reference ⟨⟨1, 4⟩, "Foo"⟩)
      [.named ⟨5, 10⟩ (.plain ⟨⟨5, 6⟩, "a"⟩)
        (.braced ⟨7, 10⟩ (.expr (.identifier ⟨8, 9⟩ "x" true)))]
      [.braced ⟨11, 14⟩ (.expr (.number ⟨12, 13⟩ 1))]))]

theorem transform_preserves_bare_tag :
    ∃ lowered, (transform { Options.standard with mode := .targeted } .bareTag).outcome =
        .ok lowered ∧
      Program.bareTag.Linked ∧
      lowered.program.nodes.filterMap Node.reference? = [⟨⟨1, 4⟩, "Foo"⟩, ⟨⟨8, 9⟩, "x"⟩] := by
  have linked : Program.bareTag.Linked := by
    unfold Program.Linked
    decide +kernel
  refine ⟨_, rfl, linked, ?_⟩
  have preserved := transform_preserves_expressions { Options.standard with mode := .targeted }
    .bareTag rfl
  exact Eq.trans (preserved.2.1 linked) (by decide +kernel)

end JsxLowering
