import JsxLowering.Proofs.Unfolding

set_option autoImplicit false

/-!
Braces around markup make no difference. An element or fragment may stand directly as a child or
as the value of an attribute, or in braces there, and it is lowered to the same, with the same
reports.

What is no markup is rebuilt from its own head and the nodes that take the place of its parts.
A node is determined by its head and its parts, so that nothing has to be said about the kinds
of syntax one by one.
-/

namespace JsxLowering

theorem Report.mapM_eq_of_forall₂ {α β : Type} {step : α → Report β} {values others : List α}
    (pairs : List.Forall₂ (fun value other => step value = step other) values others) :
    values.mapM step = others.mapM step := by
  induction pairs with
  | nil => rfl
  | cons same _ inductionHypothesis =>
      rw [List.mapM_cons, List.mapM_cons, same, inductionHypothesis]

namespace Node

theorem map_attr_append_map_child_inj {attributes others : List Attribute}
    {children rest : List Child}
    (parts : attributes.map attr ++ children.map child = others.map attr ++ rest.map child) :
    attributes = others ∧ children = rest := by
  induction attributes generalizing others with
  | nil =>
      cases others with
      | nil => simpa [List.map_inj_right] using parts
      | cons other others => cases children <;> simp at parts
  | cons given attributes inductionHypothesis =>
      cases others with
      | nil => cases rest <;> simp at parts
      | cons other others =>
          obtain ⟨same, tails⟩ := List.cons.inj parts
          cases same
          obtain ⟨rfl, rfl⟩ := inductionHypothesis tails
          exact ⟨rfl, rfl⟩

theorem optional_inj {α : Type} {first second : Option α} :
    first.toList = second.toList ↔ first = second := by
  cases first <;> cases second <;> simp

section

attribute [local simp] List.map_inj_right Node.children Node.head

/-- A node is determined by its head and its parts. -/
theorem ext_head {node other : Node} (heads : node.head = other.head)
    (parts : node.children = other.children) : node = other := by
  cases node <;> cases other <;>
    simp only [head, reduceCtorEq, expr.injEq, part.injEq, item.injEq, property.injEq, key.injEq,
      functionBody.injEq, markup.injEq, attr.injEq, attributeValue.injEq, braced.injEq,
      child.injEq, statement.injEq, declarator.injEq] at heads ⊢
  case expr.expr value other =>
    cases value <;> cases other <;> try cases heads
    all_goals simp_all [Expr.children]
  case part.part value other =>
    cases value <;> cases other <;> cases heads <;> simp_all [Part.children]
  case item.item value other =>
    cases value <;> cases other <;> cases heads <;> simp_all [Item.children]
  case property.property value other =>
    cases value <;> cases other <;> cases heads <;> simp_all [Property.children]
  case key.key value other =>
    cases value <;> cases other <;> cases heads <;> simp_all [Key.children]
  case functionBody.functionBody value other =>
    cases value <;> cases other <;> cases heads <;> simp_all [FunctionBody.children]
  case markup.markup content other =>
    cases content <;> cases other <;> cases heads
    · simpa using map_attr_append_map_child_inj parts
    · simpa [Markup.children] using parts
  case attr.attr given other =>
    cases given <;> cases other <;> cases heads <;> simp_all [Attribute.children]
  case attributeValue.attributeValue owner value owner' other =>
    obtain ⟨rfl, heads⟩ := heads
    refine ⟨rfl, ?_⟩
    cases value <;> cases other <;> try cases heads
    all_goals simp_all [AttributeValue.children]
  case braced.braced content other =>
    cases content <;> cases other <;> cases heads <;> simp_all [Braced.children]
  case child.child value other =>
    cases value <;> cases other <;> try cases heads
    all_goals simp_all [Child.children]
  case statement.statement value other =>
    cases value <;> cases other <;> cases heads <;>
      simp_all [Statement.children, optional_inj]
  case declarator.declarator value other =>
    cases value
    cases other
    cases heads
    simpa [Declarator.children, optional_inj] using parts

end

/-- The second node is the first with braces around any elements and fragments that stand
directly as a child or as the value of an attribute. -/
inductive Braces : Node → Node → Prop
  | same {before after : Node} (head : after.head = before.head)
      (parts : List.Forall₂ Braces before.children after.children) : Braces before after
  | nested {before after : Markup} (span : Span)
      (content : Braces (.markup before) (.markup after)) :
      Braces (.child (.markup before)) (.child (.braced span (.expr (.markup after))))
  | assigned {before after : Markup} (owner span : Span)
      (content : Braces (.markup before) (.markup after)) :
      Braces (.attributeValue owner (.markup before))
        (.attributeValue owner (.braced span (.expr (.markup after))))

/-- The nodes are lowered to the same, with the same reports. -/
def SameLowering (targets : Targets) : Node → Node → Prop
  | attr before, attr after => before.lower targets = after.lower targets
  | child before, child after => before.lower targets = after.lower targets
  | before, after => before.lower targets = after.lower targets

variable {targets : Targets} {before after : Node}

theorem SameLowering.lower_eq (same : before.SameLowering targets after) :
    before.lower targets = after.lower targets := by
  cases before <;> cases after <;> first | exact same | exact congrArg (_ <$> ·) same

theorem lower_map_eq {first second : List Node}
    (pairs : List.Forall₂ (SameLowering targets) first second) :
    first.map (lower targets) = second.map (lower targets) := by
  have lowered := pairs.imp fun _ _ same => same.lower_eq
  rw [← List.forall₂_eq_eq_eq]
  exact List.forall₂_map_left_iff.mpr (List.forall₂_map_right_iff.mpr lowered)

theorem entering_head (mode : Mode) (node : Node) :
    node.head.entering mode = node.entering mode := by
  cases node with
  | markup content => cases content <;> rfl
  | _ => rfl

theorem leaving_head (node : Node) : node.head.leaving = node.leaving := by
  cases node with
  | markup content => cases content <;> rfl
  | _ => rfl

theorem effect_lower_congr (heads : after.head = before.head)
    (parts : before.children.map (lower targets) = after.children.map (lower targets)) :
    (before.lower targets).effect = (after.lower targets).effect := by
  have effects : (before.children.map fun child => (child.lower targets).effect) =
      after.children.map fun child => (child.lower targets).effect := by
    simpa only [List.map_map, Function.comp_def] using congrArg (List.map Report.effect) parts
  rw [effect_lower, effect_lower, effects, ← entering_head, ← leaving_head, ← heads,
    entering_head, leaving_head]

theorem lower_congr_of_plain (plain : before.isMarkup = false) (heads : after.head = before.head)
    (parts : before.children.map (lower targets) = after.children.map (lower targets)) :
    before.lower targets = after.lower targets := by
  have plain' : after.isMarkup = false := by
    rw [← isMarkup_head, heads, isMarkup_head, plain]
  obtain ⟨left, keepsLeft⟩ := keeps targets plain
  obtain ⟨right, keepsRight⟩ := keeps targets plain'
  have children : before.loweredChildren targets = after.loweredChildren targets := by
    simpa [loweredChildren, List.flatMap, Function.comp_def] using
      congrArg (List.flatMap Report.value) parts
  -- Both nodes are rebuilt from equal heads and equal parts.
  have same : left = right := by
    apply ext_head
    · rw [keepsLeft.head, keepsRight.head, heads]
    · rw [keepsLeft.children, keepsRight.children, children]
  apply Report.ext
  · rw [keepsLeft.value, keepsRight.value, same]
  · exact effect_lower_congr heads parts

theorem lower_inj {α : Type} {form : α → Node}
    (injective : ∀ {value other : α}, form value = form other → value = other)
    {first second : Report α}
    (same : (fun value => [form value]) <$> first = (fun value => [form value]) <$> second) :
    first = second := by
  apply Report.ext
  · exact injective (List.cons.inj (congrArg Report.value same)).1
  · simpa using congrArg Report.effect same

theorem Braces.exists_attr {given : Attribute} (braces : Braces (attr given) after) :
    ∃ other, after = attr other := by
  cases braces with
  | same heads _ => cases after <;> first | exact ⟨_, rfl⟩ | cases heads

theorem Braces.exists_child {value : Child} (braces : Braces (child value) after) :
    ∃ other, after = child other := by
  cases braces with
  | same heads _ => cases after <;> first | exact ⟨_, rfl⟩ | cases heads
  | nested => exact ⟨_, rfl⟩

/-- Nodes of which the second has braces that the first need not have, and that are lowered to
the same. -/
def Paired (targets : Targets) (before after : Node) : Prop :=
  Braces before after ∧ SameLowering targets before after

theorem lower_eq_of_parts {part other : Node} {rest others : List Node}
    (parts : List.Forall₂ (Paired targets) (part :: rest) (other :: others)) :
    part.lower targets = other.lower targets :=
  (List.forall₂_cons.mp parts).1.2.lower_eq

theorem forall₂_parts {attributes others : List Attribute} {children rest : List Child}
    (pairs : List.Forall₂ (Paired targets) (attributes.map attr ++ children.map child)
      (others.map attr ++ rest.map child)) :
    List.Forall₂ (fun given other => given.lower targets = other.lower targets)
        attributes others ∧
      List.Forall₂ (fun value other => value.lower targets = other.lower targets)
        children rest := by
  induction attributes generalizing others with
  | nil =>
      cases others with
      | nil =>
          refine ⟨.nil, ?_⟩
          have mapped := List.forall₂_map_left_iff.mp (List.forall₂_map_right_iff.mp pairs)
          exact mapped.imp fun _ _ pair => pair.2
      | cons other others =>
          cases children with
          | nil => cases pairs
          | cons value children =>
              obtain ⟨_, impossible⟩ := (List.forall₂_cons.mp pairs).1.1.exists_child
              cases impossible
  | cons given attributes inductionHypothesis =>
      cases others with
      | nil =>
          cases rest with
          | nil => cases pairs
          | cons value rest =>
              obtain ⟨_, impossible⟩ := (List.forall₂_cons.mp pairs).1.1.exists_attr
              cases impossible
      | cons other others =>
          obtain ⟨pair, pairs⟩ := List.forall₂_cons.mp pairs
          obtain ⟨entries, lowered⟩ := inductionHypothesis pairs
          exact ⟨.cons pair.2 entries, lowered⟩

theorem lower_markup_congr {content other : Markup}
    (heads : (markup other).head = (markup content).head)
    (parts : List.Forall₂ (Paired targets) content.children other.children) :
    content.lower targets = other.lower targets := by
  cases content with
  | element span opening tag attributes children =>
      cases other with
      | element span' opening' tag' others rest =>
          cases heads
          obtain ⟨entries, lowered⟩ := forall₂_parts parts
          rw [Markup.lower, Markup.lower, lowerAttributes_eq, lowerAttributes_eq,
            lowerChildren_eq, lowerChildren_eq, Report.mapM_eq_of_forall₂ entries,
            Report.mapM_eq_of_forall₂ lowered]
      | fragment => cases heads
  | fragment span children =>
      cases other with
      | element => cases heads
      | fragment span' rest =>
          cases heads
          have bare : List.Forall₂ (Paired targets)
              (([] : List Attribute).map attr ++ children.map child)
              (([] : List Attribute).map attr ++ rest.map child) := parts
          obtain ⟨_, lowered⟩ := forall₂_parts bare
          rw [Markup.lower, Markup.lower, lowerChildren_eq, lowerChildren_eq,
            Report.mapM_eq_of_forall₂ lowered]

section

/-! The parts of markup, each with the same head as its counterpart. -/

variable {after : Node}

theorem sameLowering_attr {given : Attribute} (heads : after.head = (attr given).head)
    (parts : List.Forall₂ (Paired targets) given.children after.children) :
    SameLowering targets (attr given) after := by
  cases after with
  | attr other =>
      cases given <;> cases other <;> cases heads <;>
        have same := lower_inj expr.inj (lower_eq_of_parts parts)
      all_goals simp only [SameLowering, Attribute.lower, same]
  | _ => cases heads

theorem sameLowering_attributeValue {owner : Span} {value : AttributeValue}
    (heads : after.head = (attributeValue owner value).head)
    (parts : List.Forall₂ (Paired targets) value.children after.children) :
    SameLowering targets (attributeValue owner value) after := by
  cases after with
  | attributeValue owner' other =>
      obtain ⟨rfl, kinds⟩ := attributeValue.inj heads
      cases value <;> cases other <;> try cases kinds
      case bare.bare.refl => rfl
      case text.text.refl => rfl
      case braced.braced.refl =>
        have same := lower_inj expr.inj (lower_eq_of_parts parts)
        simp only [SameLowering, lower, AttributeValue.lower, same]
      case markup.markup =>
        have same := lower_inj expr.inj (lower_eq_of_parts parts)
        simp only [SameLowering, lower, AttributeValue.lower, same]
  | _ => cases heads

theorem sameLowering_braced {content : Braced} (heads : after.head = (braced content).head)
    (parts : List.Forall₂ (Paired targets) content.children after.children) :
    SameLowering targets (braced content) after := by
  cases after with
  | braced other =>
      cases content <;> cases other <;> cases heads
      · have same := lower_inj expr.inj (lower_eq_of_parts parts)
        simp only [SameLowering, lower, Braced.lower, same]
      · rfl
  | _ => cases heads

theorem sameLowering_child {value : Child} (heads : after.head = (child value).head)
    (parts : List.Forall₂ (Paired targets) value.children after.children) :
    SameLowering targets (child value) after := by
  cases after with
  | child other =>
      cases value <;> cases other <;> try cases heads
      case text.text.refl => rfl
      all_goals
        have same := lower_inj expr.inj (lower_eq_of_parts parts)
        simp only [SameLowering, Child.lower, same]
  | _ => cases heads

theorem sameLowering_expr_markup {content : Markup}
    (heads : after.head = (expr (.markup content)).head)
    (parts : List.Forall₂ (Paired targets) [markup content] after.children) :
    SameLowering targets (expr (.markup content)) after := by
  cases after with
  | expr other =>
      cases other with
      | markup content' =>
          have same := lower_inj expr.inj (lower_eq_of_parts parts)
          simp only [SameLowering, lower, Expr.lower, same]
      | _ => cases heads
  | _ => cases heads

theorem sameLowering_markup {content : Markup} (heads : after.head = (markup content).head)
    (parts : List.Forall₂ (Paired targets) content.children after.children) :
    SameLowering targets (markup content) after := by
  cases after with
  | markup other => simp only [SameLowering, lower, lower_markup_congr heads parts]
  | _ => cases heads

end

theorem sameLowering_of_same (heads : after.head = before.head)
    (parts : List.Forall₂ (Paired targets) before.children after.children) :
    SameLowering targets before after := by
  cases plain : before.isMarkup with
  | false =>
      have same := lower_congr_of_plain plain heads (lower_map_eq (parts.imp fun _ _ => And.right))
      cases before with
      | attr => cases plain
      | child => cases plain
      | _ => exact same
  | true =>
      cases before with
      | expr value =>
          cases value with
          | markup content => exact sameLowering_expr_markup heads parts
          | _ => cases plain
      | markup content => exact sameLowering_markup heads parts
      | attr given => exact sameLowering_attr heads parts
      | attributeValue owner value => exact sameLowering_attributeValue heads parts
      | braced content => exact sameLowering_braced heads parts
      | child value => exact sameLowering_child heads parts
      | _ => cases plain

theorem sameLowering_of_braces (targets : Targets) (before after : Node)
    (braces : before.Braces after) : SameLowering targets before after := by
  induction before using Node.induction generalizing after with
  | step before inductionHypothesis =>
      cases braces with
      | same heads parts =>
          refine sameLowering_of_same heads ?_
          have known := (List.forall₂_and_left _ _).mpr ⟨inductionHypothesis, parts⟩
          exact known.imp fun _ _ pair => ⟨pair.2, pair.1 _ pair.2⟩
      | nested span content =>
          have same := lower_inj expr.inj (inductionHypothesis _ (.head _) _ content).lower_eq
          simp only [SameLowering, Child.lower, Braced.lower, Expr.lower, same]
      | assigned owner span content =>
          have same := lower_inj expr.inj (inductionHypothesis _ (.head _) _ content).lower_eq
          simp only [SameLowering, lower, AttributeValue.lower, Braced.lower, Expr.lower, same]

theorem Braces.span_eq {first second : Statement}
    (braces : Braces (statement first) (statement second)) : second.span = first.span := by
  cases braces with
  | same heads parts =>
      cases first <;> cases second <;> cases heads
      case marked.marked.refl inner other =>
        have spans := span_eq (List.forall₂_cons.mp parts).1
        exact spans
      all_goals rfl

end Node

/-- The second program is the first with braces around any elements and fragments that stand
directly as a child or as the value of an attribute. -/
structure Program.Braces (before after : Program) : Prop where
  source : after.source = before.source
  comments : after.comments = before.comments
  directives : after.directives = before.directives
  interpreter : after.interpreter = before.interpreter
  body : List.Forall₂ (fun statement other => (Node.statement statement).Braces (.statement other))
    before.body after.body

namespace Program

variable {before after : Program} (braces : before.Braces after)

include braces

theorem firstCode?_of_braces : Header.firstCode? after = Header.firstCode? before := by
  unfold Header.firstCode?
  rw [braces.directives]
  cases before.directives with
  | cons directive rest => rfl
  | nil =>
      have body := braces.body
      revert body
      cases before.body with
      | nil =>
          intro body
          rw [List.forall₂_nil_left_iff.mp body]
      | cons statement rest =>
          intro body
          obtain ⟨other, _, same, _, listed⟩ := List.forall₂_cons_left_iff.mp body
          rw [listed]
          simp only [same.span_eq]

theorem findings_of_braces : Header.findings after = Header.findings before := by
  have precedes : Header.precedesCode after = Header.precedesCode before := by
    funext comment
    rw [Header.precedesCode, Header.precedesCode, firstCode?_of_braces braces]
  have texts : Header.commentText after = Header.commentText before := by
    funext comment
    rw [Header.commentText, Header.commentText, braces.source]
  rw [Header.findings, Header.findings, Header.comments, Header.comments, braces.comments,
    precedes, texts]

theorem lowerBody_of_braces (options : Options)
    (annotations : effectiveAnnotations options after = effectiveAnnotations options before) :
    after.lowerBody options = before.lowerBody options := by
  have targets : after.targets options = before.targets options := by
    rw [Program.targets, Program.targets, annotations]
  rw [lowerBody, lowerBody, targets]
  symm
  apply Report.mapM_eq_of_forall₂
  apply braces.body.imp
  intro statement other same
  have lowered := Node.sameLowering_of_braces (before.targets options) _ _ same
  exact Node.lower_inj Node.statement.inj lowered.lower_eq

end Program

/-- Braces around elements and fragments that could stand without them change nothing: neither
the lowered program and its count, nor the diagnostics, nor the log. -/
theorem transform_ignores_braces (options : Options) (before after : Program)
    (braces : before.Braces after) : transform options after = transform options before := by
  have findings := Program.findings_of_braces braces
  have annotations : effectiveAnnotations options after = effectiveAnnotations options before := by
    rw [effectiveAnnotations, effectiveAnnotations, Header.annotations, Header.annotations,
      findings]
  have warnings : headerWarnings options after = headerWarnings options before := by
    rw [headerWarnings, headerWarnings, Header.warnings, Header.warnings, findings]
  have lowered := Program.lowerBody_of_braces braces options annotations
  have program (body : List Statement) :
      { after with body := body } = { before with body := body } := by
    rw [braces.source, braces.comments, braces.directives, braces.interpreter]
  rw [transform_eq, transform_eq, annotations, warnings, lowered, program]

/-- An element with one attribute and one child. -/
def singleChild (value : AttributeValue) (child : Child) : Program where
  source := "<a b=<></>><c/></a>"
  comments := []
  directives := []
  body := [.expression ⟨0, 19⟩ (.markup (.element ⟨0, 19⟩ ⟨0, 11⟩ (.intrinsic ⟨⟨1, 2⟩, "a"⟩)
    [.named ⟨3, 10⟩ (.plain ⟨⟨3, 4⟩, "b"⟩) value] [child]))]

theorem transform_ignores_braces_twice :
    let options : Options := { Options.standard with mode := .targeted }
    let fragment : Markup := .fragment ⟨5, 10⟩ []
    let element : Markup := .element ⟨11, 15⟩ ⟨11, 15⟩ (.intrinsic ⟨⟨12, 13⟩, "c"⟩) [] []
    let before := singleChild (.markup fragment) (.markup element)
    let after := singleChild (.braced .nowhere (.expr (.markup fragment)))
      (.braced ⟨1, 0⟩ (.expr (.markup element)))
    before.Braces after ∧ transform options after = transform options before := by
  intro options fragment element before after
  have braces : before.Braces after := by
    refine ⟨rfl, rfl, rfl, rfl, .cons (.same rfl (.cons (.same rfl (.cons ?_ .nil)) .nil)) .nil⟩
    refine .same rfl (.cons (.same rfl (.cons ?_ .nil)) (.cons ?_ .nil))
    · exact .assigned _ _ (.same rfl .nil)
    · exact .nested _ (.same rfl .nil)
  exact ⟨braces, transform_ignores_braces options before after braces⟩

end JsxLowering
