import JsxLowering.Proofs.Naming
import JsxLowering.Proofs.Preservation

set_option autoImplicit false

/-!
The identifiers that callees start from. In targeted mode the callee of a plain tag holds a single
identifier: the tag itself if it stays bare, or else the root of the target that it is looked up on.
It is an identifier name in either case. Reserved words are identifier names too, and no check keeps
them away. So the identifiers that lowering makes can all stand there exactly if no tag that stays
bare is reserved, and no root of a target that a tag is looked up on.
-/

namespace JsxLowering

/-- The words that are reserved in module code, where the words of strict code are among them. -/
def moduleReserved : List String :=
  ["await", "break", "case", "catch", "class", "const", "continue", "debugger", "default",
    "delete", "do", "else", "enum", "export", "extends", "false", "finally", "for", "function",
    "if", "implements", "import", "in", "instanceof", "interface", "let", "new", "null", "package",
    "private", "protected", "public", "return", "static", "super", "switch", "this", "throw",
    "true", "try", "typeof", "var", "void", "while", "with", "yield"]

/-- Whether a name can stand as an expression of its own. -/
def isBareIdentifier (name : String) : Bool :=
  isIdentifierName name && !moduleReserved.contains name

theorem isBareIdentifier_iff {name : String} :
    isBareIdentifier name = true ↔ isIdentifierName name = true ∧ name ∉ moduleReserved := by
  simp [isBareIdentifier]

theorem isIdentifierName_of_reserved {name : String} (reserved : name ∈ moduleReserved) :
    isIdentifierName name = true := by
  have words : moduleReserved.all isIdentifierName = true := by decide +kernel
  exact List.all_eq_true.mp words name reserved

def Tag.plainName? : Tag → Option Name
  | intrinsic name => some name
  | reference name => some name
  | _ => none

theorem DottedPath.isIdentifierName_root (path : DottedPath) :
    isIdentifierName path.root = true :=
  path.valid path.root (List.head_mem path.nonempty)

namespace Node

attribute [local simp] identifier? Node.children Expr.children

@[simp]
theorem identifiers_identifier (span : Span) (name : String) (bound : Bool) :
    (expr (.identifier span name bound)).gather identifier? = [⟨span, name⟩] := by
  simp [gather_eq]

@[simp]
theorem identifiers_member (span : Span) (object : Expr) (name : Name) :
    (expr (.member span object name)).gather identifier? = (expr object).gather identifier? := by
  simp [gather_eq identifier? (expr (.member span object name))]

@[simp]
theorem identifiers_index (span : Span) (object : Expr) (name : Name) :
    (expr (.index span object (.string name.span name.text))).gather identifier? =
      (expr object).gather identifier? := by
  have key : (expr (.string name.span name.text)).gather identifier? = [] := by
    simp [gather_eq]
  rw [gather_eq]
  simp [key]

@[simp]
theorem identifiers_access (span : Span) (object : Expr) (name : Name) :
    (expr (.access span object name)).gather identifier? = (expr object).gather identifier? := by
  unfold Expr.access
  split
  next _ => exact identifiers_member span object name
  next _ => exact identifiers_index span object name

@[simp]
theorem identifiers_ofPath (path : DottedPath) :
    (expr (.ofPath path)).gather identifier? = [⟨.nowhere, path.root⟩] := by
  apply Expr.ofPath_induction
    (motive := fun _ object => (expr object).gather identifier? = [⟨.nowhere, path.root⟩]) path
  · exact identifiers_identifier _ _ _
  · intro words object segment given
    rw [identifiers_member, given]

theorem identifiers_toExpr (object : TagObject) :
    (expr object.toExpr).gather identifier? = object.root?.toList := by
  induction object with
  | reference name => simp [TagObject.toExpr, TagObject.root?]
  | this span => simp [TagObject.toExpr, TagObject.root?, gather_eq]
  | member span object property inductionHypothesis =>
      rw [TagObject.toExpr, identifiers_access, inductionHypothesis, TagObject.root?]

end Node

namespace Program

variable (options : Options) (program : Program)

/-- The callee of a plain tag in targeted mode, and the identifier that it starts from. -/
inductive CalleeOf (name : Name) : Expr → Name → Prop where
  | bare (bound : Bool) (unknown : isKnownTag name.text = false)
      (unset : program.componentsTarget? options = none)
      (valid : isIdentifierName name.text = true) :
      CalleeOf name (.identifier name.span name.text bound) name
  | member (routed : isKnownTag name.text = true ∨ program.componentsTarget? options ≠ none)
      (valid : isIdentifierName name.text = true) :
      CalleeOf name (.member name.span (.ofPath (program.lookupTarget options name.text)) name)
        ⟨.nowhere, (program.lookupTarget options name.text).root⟩
  | index (invalid : isIdentifierName name.text = false) :
      CalleeOf name (.index name.span (.ofPath (program.lookupTarget options name.text))
        (.string name.span name.text)) ⟨.nowhere, (program.lookupTarget options name.text).root⟩

/-- The identifiers that the callee of a tag can start from. -/
inductive Roots : Tag → Name → Prop where
  | plain {tag : Tag} {name word : Name} {callee : Expr} (named : tag.plainName? = some name)
      (made : program.CalleeOf options name callee word) : Roots tag word
  | member {object : TagObject} {word : Name} (span : Span) (property : Name)
      (rooted : object.root? = some word) : Roots (.member span object property) word

/-- A reserved word comes to stand where the callee of a plain tag starts: the tag itself, which is
not looked up anywhere, or the root of the target that it is looked up on. -/
inductive Misleads (name : String) : Prop where
  | tag (unknown : isKnownTag name = false) (unset : program.componentsTarget? options = none)
      (reserved : name ∈ moduleReserved)
  | target (routed : isKnownTag name = true ∨ program.componentsTarget? options ≠ none ∨
        isIdentifierName name = false)
      (reserved : (program.lookupTarget options name).root ∈ moduleReserved)

/-- The program has an element with the plain tag. -/
def HasPlainTag (name : Name) : Prop :=
  ∃ span opening tag attributes children,
    Node.markup (.element span opening tag attributes children) ∈ program.nodes ∧
      tag.plainName? = some name

namespace CalleeOf

variable {options program} {name : Name} {callee : Expr} {root : Name}

theorem identifiers (made : program.CalleeOf options name callee root) :
    (Node.expr callee).gather Node.identifier? = [root] := by
  cases made with
  | bare bound unknown unset valid => exact Node.identifiers_identifier _ _ _
  | member routed valid => rw [Node.identifiers_member, Node.identifiers_ofPath]
  | index invalid => rw [Node.identifiers_index, Node.identifiers_ofPath]

theorem valid (made : program.CalleeOf options name callee root) :
    isIdentifierName root.text = true := by
  cases made with
  | bare bound unknown unset valid => exact valid
  | member routed valid => exact DottedPath.isIdentifierName_root _
  | index invalid => exact DottedPath.isIdentifierName_root _

theorem usable_iff (made : program.CalleeOf options name callee root) :
    isBareIdentifier root.text = true ↔ ¬ program.Misleads options name.text := by
  rw [isBareIdentifier_iff, and_iff_right made.valid, not_iff_not]
  constructor
  · intro reserved
    cases made with
    | bare bound unknown unset valid => exact .tag unknown unset reserved
    | member routed valid =>
        exact .target (routed.elim .inl fun set => .inr (.inl set)) reserved
    | index invalid => exact .target (.inr (.inr invalid)) reserved
  · intro misleads
    cases made with
    | bare bound unknown unset valid =>
        cases misleads with
        | tag _ _ reserved => exact reserved
        | target routed reserved => simp [unknown, unset, valid] at routed
    | member routed valid =>
        cases misleads with
        | tag unknown unset reserved => simp [unknown, unset] at routed
        | target _ reserved => exact reserved
    | index invalid =>
        cases misleads with
        | tag _ _ reserved => simp [isIdentifierName_of_reserved reserved] at invalid
        | target _ reserved => exact reserved

/-- The check lets through reserved words, and among the names that cannot stand bare only these. -/
theorem member_or_reserved (made : program.CalleeOf options name callee root)
    (unusable : isBareIdentifier name.text = false) :
    (∃ object, object = .ofPath (program.lookupTarget options name.text) ∧
      (callee = .member name.span object name ∨
        callee = .index name.span object (.string name.span name.text))) ∨
    name.text ∈ moduleReserved ∧ isKnownTag name.text = false ∧
      program.componentsTarget? options = none ∧
      ∃ bound, callee = .identifier name.span name.text bound := by
  cases made with
  | bare bound unknown unset valid =>
      have reserved : name.text ∈ moduleReserved := by
        simpa [isBareIdentifier, valid] using unusable
      exact .inr ⟨reserved, unknown, unset, bound, rfl⟩
  | member routed valid => exact .inl ⟨_, rfl, .inl rfl⟩
  | index invalid => exact .inl ⟨_, rfl, .inr rfl⟩

end CalleeOf

variable {options} (targeted : options.mode = .targeted)

include targeted

theorem calleeOf_resolvePlain (name : Name) (bound : Bool) :
    ∃ root, program.CalleeOf options name ((program.targets options).resolvePlain name bound)
      root := by
  have access (routed : isKnownTag name.text = true ∨
      program.componentsTarget? options ≠ none ∨ isIdentifierName name.text = false) :
      ∃ root, program.CalleeOf options name (.access name.span
        (.ofPath (program.lookupTarget options name.text)) name) root := by
    unfold Expr.access
    split
    next valid =>
      have elsewhere := routed.imp_right fun other => other.resolve_right (by simp [valid])
      exact ⟨_, .member elsewhere valid⟩
    next invalid => exact ⟨_, .index (by simpa using invalid)⟩
  unfold Targets.resolvePlain
  rw [dom_targets targeted, components_targets targeted]
  unfold lookupTarget at access
  by_cases known : isKnownTag name.text = true
  · rw [if_pos known] at access ⊢
    exact access (.inl known)
  · rw [if_neg known] at access ⊢
    cases given : program.componentsTarget? options with
    | some target =>
        rw [given] at access
        exact access (.inr (.inl (by simp)))
    | none =>
        rw [given] at access
        have unknown : isKnownTag name.text = false := by simpa using known
        by_cases valid : isIdentifierName name.text = true
        · refine ⟨name, ?_⟩
          simp only [Option.map_none, valid, if_true]
          exact .bare bound unknown given valid
        · simp only [Option.map_none, if_neg valid]
          exact access (.inr (.inr (by simpa using valid)))

theorem calleeOf_callHead {tag : Tag} {name : Name} (named : tag.plainName? = some name) :
    ∃ root, program.CalleeOf options name ((program.targets options).callHead tag).value.callee
      root := by
  rw [callee_callHead_targeted targeted]
  cases tag with
  | intrinsic given =>
      cases named
      exact program.calleeOf_resolvePlain targeted name false
  | reference given =>
      cases named
      exact program.calleeOf_resolvePlain targeted name true
  | _ => cases named

theorem roots_of_mem_callee {tag : Tag} (separate : ¬ tag.IsNamespaced) {word : Name}
    (gathered : word ∈ (Node.expr ((program.targets options).callHead tag).value.callee).gather
      Node.identifier?) : program.Roots options tag word := by
  have plain {name : Name} (named : tag.plainName? = some name) :
      program.Roots options tag word := by
    obtain ⟨root, made⟩ := program.calleeOf_callHead targeted named
    rw [made.identifiers] at gathered
    cases List.mem_singleton.mp gathered
    exact .plain named made
  cases tag with
  | intrinsic name => exact plain rfl
  | reference name => exact plain rfl
  | namespaced span space name => exact absurd trivial separate
  | member span object property =>
      rw [callee_callHead_targeted targeted] at gathered
      have rooted : word ∈ object.root?.toList := by
        rw [← Node.identifiers_toExpr object, ← Node.identifiers_access span object.toExpr property]
        exact gathered
      exact .member span property (Option.mem_toList.mp rooted)
  | this span =>
      rw [callee_callHead_targeted targeted] at gathered
      simp [Targets.resolve, Node.gather_eq, Node.identifier?, Node.children, Expr.children]
        at gathered

theorem identifier_of_accepted {lowered : Lowered}
    (accepted : (transform options program).outcome = .ok lowered) :
    ∀ node ∈ lowered.program.nodes, ∀ word ∈ node.identifier?,
      program.Keeps options node ∨ ∃ span opening tag attributes children,
        Node.markup (.element span opening tag attributes children) ∈ program.nodes ∧
          program.Roots options tag word := by
  refine forall_nodes_of_accepted accepted ?_ ?_ ?_
  · intro node frame word there
    cases node with
    | expr value =>
        cases value with
        | identifier span name bound => cases frame
        | _ => cases there
    | _ => cases there
  · exact fun node kept word _ => .inl kept
  · intro span opening tag attributes children membership
    constructor
    · intro node inside word there
      have separate := not_isNamespaced_of_accepted accepted targeted membership
      have rooted := program.roots_of_mem_callee targeted separate
        (List.mem_filterMap.mpr ⟨node, inside, there⟩)
      exact .inr ⟨_, _, _, _, _, membership, rooted⟩
    · intro given _ text _ place word there
      cases there

/-- The call for an element with a plain tag is found in the lowered program. -/
theorem exists_call_of_plain {lowered : Lowered}
    (accepted : (transform options program).outcome = .ok lowered) {span opening : Span}
    {tag : Tag} {attributes : List Attribute} {children : List Child} {name : Name}
    (membership : Node.markup (.element span opening tag attributes children) ∈ program.nodes)
    (named : tag.plainName? = some name) :
    ∃ callee arguments root, Node.expr (.call span callee arguments) ∈ lowered.program.nodes ∧
      program.CalleeOf options name callee root := by
  obtain ⟨root, made⟩ := program.calleeOf_callHead targeted named
  exact ⟨_, _, root, lowered_mem_nodes accepted membership, made⟩

/-- What the callee of a plain tag starts from is found in the lowered program. -/
theorem exists_root_of_hasPlainTag {lowered : Lowered}
    (accepted : (transform options program).outcome = .ok lowered) {name : Name}
    (tagged : program.HasPlainTag name) :
    ∃ callee root, program.CalleeOf options name callee root ∧
      ∃ node ∈ lowered.program.nodes, root ∈ node.identifier? := by
  obtain ⟨span, opening, tag, attributes, children, membership, named⟩ := tagged
  obtain ⟨callee, arguments, root, call, made⟩ :=
    program.exists_call_of_plain targeted accepted membership named
  have gathered : root ∈ (Node.expr callee).gather Node.identifier? := by simp [made.identifiers]
  obtain ⟨node, inside, there⟩ := List.mem_filterMap.mp gathered
  refine ⟨callee, root, made, node, ?_, there⟩
  exact mem_nodes_of_mem_preorder (Node.mem_preorder_of_part inside List.mem_cons_self) call

end Program

/-- In targeted mode every identifier of the lowered program is kept from outside of markup or is
what the callee of a tag starts from. For a plain tag this is the tag itself or the root of the
target that it is looked up on, an identifier name. It is usable as a bare identifier unless a
reserved word comes to stand there, so that all identifiers made from plain tags are usable exactly
if that happens for none of them. A plain tag that cannot stand bare is accessed on a target, unless
it is reserved and there is no target for it. -/
theorem transform_roots_callees (options : Options) (program : Program)
    (targeted : options.mode = .targeted) {lowered : Lowered}
    (accepted : (transform options program).outcome = .ok lowered) :
    (∀ node ∈ lowered.program.nodes, ∀ word ∈ node.identifier?,
      program.Keeps options node ∨ ∃ span opening tag attributes children,
        Node.markup (.element span opening tag attributes children) ∈ program.nodes ∧
          program.Roots options tag word) ∧
    (∀ span opening tag attributes children name,
      Node.markup (.element span opening tag attributes children) ∈ program.nodes →
      tag.plainName? = some name →
      ∃ callee arguments root, Node.expr (.call span callee arguments) ∈ lowered.program.nodes ∧
        program.CalleeOf options name callee root ∧
        (Node.expr callee).gather Node.identifier? = [root] ∧
        isIdentifierName root.text = true ∧
        (isBareIdentifier root.text = true ↔ ¬ program.Misleads options name.text) ∧
        (isBareIdentifier name.text = false →
          (∃ object, object = .ofPath (program.lookupTarget options name.text) ∧
            (callee = .member name.span object name ∨
              callee = .index name.span object (.string name.span name.text))) ∨
          name.text ∈ moduleReserved ∧ isKnownTag name.text = false ∧
            program.componentsTarget? options = none ∧
            ∃ bound, callee = .identifier name.span name.text bound)) ∧
    ((∀ node ∈ lowered.program.nodes, ∀ word ∈ node.identifier?,
      (∃ name callee, program.HasPlainTag name ∧ program.CalleeOf options name callee word) →
        isBareIdentifier word.text = true) ↔
      ∀ name, program.HasPlainTag name → ¬ program.Misleads options name.text) := by
  refine ⟨program.identifier_of_accepted targeted accepted, ?_, ?_, ?_⟩
  · intro span opening tag attributes children name membership named
    obtain ⟨callee, arguments, root, call, made⟩ :=
      program.exists_call_of_plain targeted accepted membership named
    exact ⟨callee, arguments, root, call, made, made.identifiers, made.valid, made.usable_iff,
      made.member_or_reserved⟩
  · intro usable name tagged
    obtain ⟨callee, root, made, node, membership, there⟩ :=
      program.exists_root_of_hasPlainTag targeted accepted tagged
    exact made.usable_iff.mp (usable node membership root there ⟨name, callee, tagged, made⟩)
  · rintro sound node _ word _ ⟨name, callee, tagged, made⟩
    exact made.usable_iff.mpr (sound name tagged)

theorem transform_roots_callees_bare_tag :
    ∃ lowered callee arguments,
      (transform { Options.standard with mode := .targeted } .bareTag).outcome = .ok lowered ∧
      Node.expr (.call ⟨0, 20⟩ callee arguments) ∈ lowered.program.nodes ∧
      (Node.expr callee).gather Node.identifier? = [⟨⟨1, 4⟩, "Foo"⟩] ∧
      isBareIdentifier "Foo" = true ∧
      ¬ Program.bareTag.Misleads { Options.standard with mode := .targeted } "Foo" := by
  obtain ⟨_, roots, _⟩ := transform_roots_callees { Options.standard with mode := .targeted }
    .bareTag rfl rfl
  have membership : Node.markup (.element ⟨0, 20⟩ ⟨0, 11⟩ (.reference ⟨⟨1, 4⟩, "Foo"⟩)
      [.named ⟨5, 10⟩ (.plain ⟨⟨5, 6⟩, "a"⟩)
        (.braced ⟨7, 10⟩ (.expr (.identifier ⟨8, 9⟩ "x" true)))]
      [.braced ⟨11, 14⟩ (.expr (.number ⟨12, 13⟩ 1))]) ∈ Program.bareTag.nodes :=
    Program.markup_mem_nodes (List.mem_singleton_self _)
  obtain ⟨callee, arguments, root, call, made, only, _, usable, _⟩ :=
    roots _ _ _ _ _ _ membership rfl
  cases made with
  | bare bound unknown unset valid =>
      have free : isBareIdentifier "Foo" = true := by decide +kernel
      exact ⟨_, _, arguments, rfl, call, only, free, usable.mp free⟩
  | member routed valid => exact absurd routed (by decide +kernel)
  | index invalid => exact absurd invalid (by decide +kernel)

/-- The program `<typeof/>;`. -/
def Program.operatorTag : Program where
  source := "<typeof/>;"
  comments := []
  directives := []
  body :=
    [.expression ⟨0, 10⟩ (.markup (.element ⟨0, 9⟩ ⟨0, 9⟩ (.intrinsic ⟨⟨1, 7⟩, "typeof"⟩) [] []))]

/-- A tag that is an operator is called as if it were a function. -/
theorem transform_calls_operator :
    ∃ lowered,
      (transform { Options.standard with mode := .targeted } .operatorTag).outcome = .ok lowered ∧
      Node.expr (.call ⟨0, 9⟩ (.identifier ⟨1, 7⟩ "typeof" false) [.expr (.null ⟨0, 9⟩)]) ∈
        lowered.program.nodes ∧
      isBareIdentifier "typeof" = false := by
  refine ⟨_, rfl, ?_, by decide⟩
  refine List.mem_flatMap.mpr ⟨_, List.mem_singleton_self _, ?_⟩
  exact Node.mem_preorder_of_mem_children (List.mem_singleton_self _)

end JsxLowering
