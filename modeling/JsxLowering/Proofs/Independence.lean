import JsxLowering.Proofs.Header
import JsxLowering.Proofs.Unfolding

set_option autoImplicit false

/-!
What lowering does not depend on. A tree is lowered by its targets only through the mode and
the beginnings of calls, so that targets which no call begins with can be any. The header
is read in targeted mode alone, and there only its block comments are.
-/

namespace JsxLowering

theorem Report.mapM_congr {α β : Type} {first second : α → Report β} {values others : List α}
    (equal : values = others) (same : ∀ value ∈ others, first value = second value) :
    values.mapM first = others.mapM second := by
  subst equal
  induction values with
  | nil => simp
  | cons value rest inductionHypothesis => simp_all

/-- Targets that lead to the same calls. -/
structure Targets.SameCalls (first second : Targets) : Prop where
  mode : first.mode = second.mode
  callHead : ∀ tag, first.callHead tag = second.callHead tag

namespace Node

variable (first second : Targets)

/-- The node is lowered to the same, with the same reports, for both targets. -/
def Indifferent : Node → Prop
  | expr value => value.lower first = value.lower second
  | part value => value.lower first = value.lower second
  | item value => value.lower first = value.lower second
  | property value => value.lower first = value.lower second
  | key value => value.lower first = value.lower second
  | functionBody value => value.lower first = value.lower second
  | markup content => content.lower first = content.lower second
  | attr given => given.lower first = given.lower second
  | attributeValue owner value => value.lower first owner = value.lower second owner
  | braced content => content.lower first = content.lower second
  | child value => value.lower first = value.lower second
  | statement value => value.lower first = value.lower second
  | declarator value => value.lower first = value.lower second

attribute [local simp] Indifferent Node.children

variable {first second}

theorem lowerChildren_congr {children : List Child}
    (parts : ∀ value ∈ children, Indifferent first second (.child value)) :
    lowerChildren first children = lowerChildren second children := by
  have lowered : children.mapM (Child.lower first) = children.mapM (Child.lower second) :=
    Report.mapM_congr rfl parts
  rw [lowerChildren_eq, lowerChildren_eq, lowered]

theorem lowerAttributes_congr {attributes : List Attribute}
    (parts : ∀ given ∈ attributes, Indifferent first second (.attr given)) :
    lowerAttributes first attributes = lowerAttributes second attributes := by
  rw [lowerAttributes_eq, lowerAttributes_eq]
  exact Report.mapM_congr rfl parts

theorem indifferent_markup (same : first.SameCalls second) (content : Markup)
    (parts : ∀ child ∈ content.children, Indifferent first second child) :
    content.lower first = content.lower second := by
  simp only [Markup.children] at parts
  cases content with
  | element span opening tag attributes children =>
      have entries : lowerAttributes first attributes = lowerAttributes second attributes := by
        apply lowerAttributes_congr
        intro given membership
        exact parts (.attr given) (by simp [membership])
      have lowered : lowerChildren first children = lowerChildren second children := by
        apply lowerChildren_congr
        intro value membership
        exact parts (.child value) (by simp [membership])
      rw [Markup.lower, Markup.lower, same.callHead, same.mode, entries, lowered]
  | fragment span children =>
      have lowered : lowerChildren first children = lowerChildren second children := by
        apply lowerChildren_congr
        intro value membership
        exact parts (.child value) (by simp [membership])
      rw [Markup.lower, Markup.lower, lowered]

attribute [local congr] Report.mapM_congr

theorem indifferent_step (same : first.SameCalls second) {node : Node}
    (parts : ∀ child ∈ node.children, Indifferent first second child) :
    Indifferent first second node := by
  cases node with
  | expr value =>
      cases value <;> simp only [children, Expr.children] at parts <;> simp_all [Expr.lower]
  | part value => cases value <;> simp_all [Part.children, Part.lower]
  | item value => cases value <;> simp_all [Item.children, Item.lower]
  | property value => cases value <;> simp_all [Property.children, Property.lower]
  | key value => cases value <;> simp_all [Key.children, Key.lower]
  | functionBody value => cases value <;> simp_all [FunctionBody.children, FunctionBody.lower]
  | markup content => exact indifferent_markup same content parts
  | attr given => cases given <;> simp_all [Attribute.children, Attribute.lower]
  | attributeValue owner value =>
      cases value <;> simp_all [AttributeValue.children, AttributeValue.lower]
  | braced content => cases content <;> simp_all [Braced.children, Braced.lower]
  | child value => cases value <;> simp_all [Child.children, Child.lower]
  | statement value =>
      cases value with
      | ret span argument =>
          cases argument <;> simp_all [Statement.children, Statement.lower, lowerOptional]
      | ifElse span test yes no =>
          cases no <;> simp_all [Statement.children, Statement.lower, lowerAlternative]
      | _ => simp_all [Statement.children, Statement.lower]
  | declarator value =>
      obtain ⟨span, name, type, init⟩ := value
      cases init <;> simp_all [Declarator.children, Declarator.lower, lowerOptional]

theorem indifferent (same : first.SameCalls second) (node : Node) :
    Indifferent first second node := by
  induction node using Node.induction with
  | step node inductionHypothesis => exact indifferent_step same inductionHypothesis

end Node

namespace Targets

theorem sameCalls_of_untargeted {first second : Targets} (mode : first.mode = second.mode)
    (other : first.mode ≠ .targeted) (tagCall : first.tagCall = second.tagCall) :
    first.SameCalls second := by
  refine ⟨mode, ?_⟩
  intro tag
  unfold callHead
  rw [← mode, tagCall]
  cases given : first.mode with
  | targeted => exact absurd given other
  | _ => rfl

theorem sameCalls_of_targeted {first second : Targets} (mode : first.mode = .targeted)
    (mode' : second.mode = .targeted) (dom : first.dom = second.dom)
    (components : first.components = second.components) : first.SameCalls second := by
  refine ⟨mode.trans mode'.symm, ?_⟩
  intro tag
  have plain : first.resolvePlain = second.resolvePlain := by
    funext name bound
    rw [resolvePlain, resolvePlain, dom, components]
  have resolved : first.resolve tag = second.resolve tag := by
    cases tag <;> simp only [resolve, plain]
  rw [callHead, callHead, mode, mode']
  simp only [resolved]

end Targets

/-- What lowering makes of a program. The source, the comments and the interpreter are only
passed on. -/
def Lowered.content (lowered : Lowered) : List Directive × List Statement × Nat :=
  (lowered.program.directives, lowered.program.body, lowered.count)

namespace Transformation

/-- Transformations with the same outcome, and the same records in their logs. -/
structure Agree (first second : Transformation) : Prop where
  outcome : first.outcome.map Lowered.content = second.outcome.map Lowered.content
  log : first.log = second.log

end Transformation

namespace Program

variable {options others : Options} {first second : Program}

theorem lowerBody_congr (code : first.SameCode second)
    (same : (first.targets options).SameCalls (second.targets others)) :
    first.lowerBody options = second.lowerBody others := by
  rw [lowerBody, lowerBody, code.body]
  apply Report.mapM_congr rfl
  intro statement _
  exact Node.indifferent same (.statement statement)

theorem outcome_congr (code : first.SameCode second)
    (same : first.lowerBody options = second.lowerBody others) :
    (transform options first).outcome.map Lowered.content =
      (transform others second).outcome.map Lowered.content := by
  rw [transform_eq, transform_eq, same]
  dsimp only
  split
  · simp only [Except.map, Lowered.content, code.directives]
  · rfl

theorem agree_of_sameCalls (code : first.SameCode second)
    (calls : (first.targets options).SameCalls (second.targets others))
    (warnings : headerWarnings options first = headerWarnings others second)
    (annotations : effectiveAnnotations options first = effectiveAnnotations others second) :
    (transform options first).Agree (transform others second) := by
  have same := lowerBody_congr code calls
  refine ⟨outcome_congr code same, ?_⟩
  rw [transform_eq, transform_eq, same, warnings, annotations]

theorem agree_of_untargeted (code : first.SameCode second) (mode : options.mode = others.mode)
    (other : options.mode ≠ .targeted) (tagCall : options.tagCall = others.tagCall) :
    (transform options first).Agree (transform others second) := by
  have unread : ∀ (settings : Options) (program : Program), settings.mode ≠ .targeted →
      effectiveAnnotations settings program = .empty ∧ headerWarnings settings program = [] := by
    intro settings program untargeted
    unfold effectiveAnnotations headerWarnings
    cases given : settings.mode with
    | targeted => exact absurd given untargeted
    | _ => exact ⟨rfl, rfl⟩
  obtain ⟨annotations, warnings⟩ := unread options first other
  obtain ⟨annotations', warnings'⟩ := unread others second (mode ▸ other)
  apply agree_of_sameCalls code
  · exact Targets.sameCalls_of_untargeted mode other (congrArg Expr.ofPath tagCall)
  · rw [warnings, warnings']
  · rw [annotations, annotations']

theorem agree_of_texts (code : first.SameCode second) (mode : options.mode = .targeted)
    (mode' : others.mode = .targeted) (dom : options.dom = others.dom)
    (components : options.components = others.components)
    (texts : Header.texts first = Header.texts second) :
    (transform options first).Agree (transform others second) := by
  have findings : Header.findings first = Header.findings second := by
    rw [Header.findings_eq, Header.findings_eq, texts]
  have warnings : headerWarnings options first = headerWarnings others second := by
    simp only [headerWarnings, mode, mode', Header.warnings, findings]
  have annotations : effectiveAnnotations options first = effectiveAnnotations others second := by
    simp only [effectiveAnnotations, mode, mode', Header.annotations, findings]
  apply agree_of_sameCalls code _ warnings annotations
  apply Targets.sameCalls_of_targeted mode mode'
  · simp only [targets, Targets.ofOptions, annotations, dom]
  · simp only [targets, Targets.ofOptions, annotations, components]

end Program

/-- What lowering does not depend on, as agreement of any two runs on programs with the same
code.

Outside of targeted mode only the mode and the function that is called for every tag count,
whatever source, comments and targets are. In targeted mode that function does not count, nor
do line comments, comments from the first one on that ends after the start of the code, and
the source outside of the leading block comments. Where comments come in order, any line
comments may be added and taken away. -/
theorem transform_noninterference (options others : Options) (first second : Program)
    (code : first.SameCode second) :
    (options.mode ≠ .targeted → options.mode = others.mode → options.tagCall = others.tagCall →
      (transform options first).Agree (transform others second)) ∧
    (options.mode = .targeted → others.mode = .targeted → options.dom = others.dom →
      options.components = others.components →
      (∀ leading later leading' later',
        first.Leads leading later → second.Leads leading' later' →
        List.Forall₂
          (fun comment other => ∃ text, first.Holds comment text ∧ second.Holds other text)
          (leading.filter (·.block)) (leading'.filter (·.block)) →
        (transform options first).Agree (transform others second)) ∧
      (first.Ordered → second.Ordered → first.source = second.source →
        first.comments.filter (·.block) = second.comments.filter (·.block) →
        (transform options first).Agree (transform others second))) := by
  constructor
  · intro other mode tagCall
    exact Program.agree_of_untargeted code mode other tagCall
  · intro mode mode' dom components
    constructor
    · intro leading later leading' later' left right alike
      exact Program.agree_of_texts code mode mode' dom components
        (Header.texts_eq_of_leads left right alike)
    · intro left right source blocks
      exact Program.agree_of_texts code mode mode' dom components
        (Header.texts_eq_of_ordered code left right source blocks)

/-- The program `<div/>` after a header and a line comment. -/
def Program.headed : Program where
  source := "/* @jsx h */ // x\n<div/>;"
  comments := [{ span := ⟨0, 12⟩, block := true }, { span := ⟨13, 17⟩, block := false }]
  directives := []
  body :=
    [.expression ⟨18, 25⟩ (.markup
      (.element ⟨18, 24⟩ ⟨18, 24⟩ (.intrinsic ⟨⟨19, 22⟩, "div"⟩) [] []))]

/-- The same code after the same header in another place, with other comments around it. -/
def Program.headedElsewhere : Program where
  source := "//! y\n/* @jsx h */<div/>; /* @jsx k */"
  comments := [{ span := ⟨0, 5⟩, block := false }, { span := ⟨6, 18⟩, block := true },
    { span := ⟨26, 38⟩, block := true }]
  directives := []
  body := Program.headed.body

theorem transform_noninterference_moved_header :
    (transform .standard .headed).Agree
      (transform { Options.standard with dom := Options.defaultTagCall } .headedElsewhere) ∧
    (transform { Options.standard with mode := .targeted } .headed).Agree
      (transform { Options.standard with mode := .targeted, tagCall := Options.defaultDom }
        .headedElsewhere) ∧
    (transform { Options.standard with mode := .targeted } .headed).Agree
      (transform { Options.standard with mode := .targeted }
        { Program.headed with comments := Program.headed.comments.filter (·.block) }) := by
  have code : Program.headed.SameCode .headedElsewhere := ⟨rfl, rfl⟩
  have left : Program.headed.Leads Program.headed.comments [] := by decide
  have right : Program.headedElsewhere.Leads (Program.headedElsewhere.comments.take 2)
      (Program.headedElsewhere.comments.drop 2) := by decide
  refine ⟨?_, ?_, ?_⟩
  · exact (transform_noninterference _ _ _ _ code).1 (by decide) rfl rfl
  · refine ((transform_noninterference _ _ _ _ code).2 rfl rfl rfl rfl).1 _ _ _ _ left right ?_
    refine .cons ⟨"/* @jsx h */".toList, ⟨[], " // x\n<div/>;".toList, ?_, rfl, ?_⟩,
      ⟨"//! y\n".toList, "<div/>; /* @jsx k */".toList, ?_, ?_, ?_⟩⟩ .nil <;> decide +kernel
  · exact ((transform_noninterference _ _ .headed
      { Program.headed with comments := Program.headed.comments.filter (·.block) }
      ⟨rfl, rfl⟩).2 rfl rfl rfl rfl).2 (by decide) (by decide) rfl rfl

end JsxLowering
