import Mathlib.Data.List.Forall2
import Mathlib.Data.List.Induction
import JsxLowering.Proofs.Diagnostics
import JsxLowering.Proofs.Tracing

set_option autoImplicit false

/-!
What the three modes have in common. A thing that becomes something in each mode is a
function of the mode, and a list of such functions says that the results have one length and
stand in one order. The relation follows the tree before lowering: plain nodes are the same
in all modes, fragments become arrays of corresponding entries, and elements become calls
that differ in how they begin and in whether their properties are grouped.
-/

namespace JsxLowering

section

variable (related : Node → (Mode → Node) → Prop)

/-- What an attribute becomes: in all modes an entry with its span and its full name. -/
inductive EntryCorresponds : Attribute → (Mode → Entry) → Prop where
  | named {span : Span} {name : AttributeName} {value : AttributeValue} {after : Mode → Expr}
      (inner : related (.attributeValue span value) fun mode => .expr (after mode)) :
      EntryCorresponds (.named span name value) fun mode => .property span name.text (after mode)
  | spread {span : Span} {argument : Expr} {after : Mode → Expr}
      (inner : related (.expr argument) fun mode => .expr (after mode)) :
      EntryCorresponds (.spread span argument) fun mode => .spread span (after mode)

/-- What a child becomes. A text is left out in all modes, or it is the same text in all. -/
inductive ChildCorresponds : Child → List (Mode → LoweredChild) → Prop where
  | dropped (span : Span) (value : String) (raw : Option String) :
      ChildCorresponds (.text span value raw) []
  | text (span : Span) (value : String) (raw : Option String) (content : TextChild) :
      ChildCorresponds (.text span value raw) [fun _ => .text content]
  | markup {content : Markup} {after : Mode → Expr}
      (inner : related (.markup content) fun mode => .expr (after mode)) :
      ChildCorresponds (.markup content) [fun mode => .expr (after mode)]
  | braced {span : Span} {content : Braced} {after : Mode → Expr}
      (inner : related (.braced content) fun mode => .expr (after mode)) :
      ChildCorresponds (.braced span content) [fun mode => .expr (after mode)]
  | spread {span : Span} {argument : Expr} {after : Mode → Expr}
      (inner : related (.expr argument) fun mode => .expr (after mode)) :
      ChildCorresponds (.spread span argument) [fun mode => .spread span (after mode)]

/-- What the children of an element or fragment become, one after another. -/
inductive ChildrenCorrespond : List Child → List (Mode → LoweredChild) → Prop where
  | nil : ChildrenCorrespond [] []
  | cons {child : Child} {children : List Child} {first rest : List (Mode → LoweredChild)}
      (head : ChildCorresponds related child first) (tail : ChildrenCorrespond children rest) :
      ChildrenCorrespond (child :: children) (first ++ rest)

end

/-- The properties arguments that entries become: `null` in all modes if there are none, else
objects, with the same keys and spans in the same order except for grouped properties, which are
the groups of the entries. -/
inductive PropsCorrespond (opening : Span) : List (Mode → Entry) → (Mode → Expr) → Prop where
  | none : PropsCorrespond opening [] fun _ => .null opening
  | some {entries : List (Mode → Entry)} {after : Mode → Expr} (nonempty : entries ≠ [])
      (generic : after .generic =
        .object opening (entries.map fun entry => (entry .generic).flat))
      (targeted : after .targeted =
        .object opening (entries.map fun entry => (entry .targeted).flat))
      (grouped : after .grouped = .object opening
        ((Group.ofEntries (entries.map fun entry => entry .grouped)).map Group.toProperty)) :
      PropsCorrespond opening entries after

/-- The array that children become. -/
def childrenArray (span : Span) (children : List (Mode → LoweredChild)) (mode : Mode) : Expr :=
  .array span (children.map fun child => (child mode).toItem)

/-- The last argument of a call, which is left out in all modes if there are no children. -/
def lastArgument (span : Span) (children : List (Mode → LoweredChild)) (mode : Mode) :
    List Item :=
  if children.isEmpty then [] else [.expr (childrenArray span children mode)]

/-- What stands around a node without leaving a trace. -/
inductive Node.Wraps : Node → Node → Prop where
  | markup (content : Markup) : Wraps (.expr (.markup content)) (.markup content)
  | markupValue (owner : Span) (content : Markup) :
      Wraps (.attributeValue owner (.markup content)) (.markup content)
  | bracedValue (owner span : Span) (content : Braced) :
      Wraps (.attributeValue owner (.braced span content)) (.braced content)
  | braced (value : Expr) : Wraps (.braced (.expr value)) (.expr value)

/-- What a node becomes in each mode, where `tagCall` is called for every tag or else what the
tag is resolved to. -/
inductive Corresponds (tagCall : Expr) (resolved : Tag → Expr) : Node → (Mode → Node) → Prop where
  | plain {node : Node} {after : Mode → Node} {parts : List (Mode → Node)}
      (unmarked : node.isMarkup = false)
      (heads : ∀ mode, (after mode).head = node.head)
      (children : ∀ mode, (after mode).children = parts.map fun part => part mode)
      (inner : List.Forall₂ (Corresponds tagCall resolved) node.children parts) :
      Corresponds tagCall resolved node after
  | wrapped {node inner : Node} {after : Mode → Node} (wraps : node.Wraps inner)
      (corresponds : Corresponds tagCall resolved inner after) :
      Corresponds tagCall resolved node after
  | bare (owner : Span) :
      Corresponds tagCall resolved (.attributeValue owner .bare)
        fun _ => .expr (.boolean owner true)
  | literal (owner span : Span) (value : String) :
      Corresponds tagCall resolved (.attributeValue owner (.text span value))
        fun _ => .expr (.string span (String.ofList (Entity.decode value.toList)))
  | nothing (span : Span) :
      Corresponds tagCall resolved (.braced (.empty span)) fun _ => .expr (.null span)
  | fragment {span : Span} {children : List Child} {after : List (Mode → LoweredChild)}
      (inner : ChildrenCorrespond (Corresponds tagCall resolved) children after) :
      Corresponds tagCall resolved (.markup (.fragment span children))
        fun mode => .expr (childrenArray span after mode)
  | element {span opening : Span} {tag : Tag} {attributes : List Attribute}
      {children : List Child} {entries : List (Mode → Entry)} {props : Mode → Expr}
      {after : List (Mode → LoweredChild)} {call : Mode → Node}
      (given : List.Forall₂ (EntryCorresponds (Corresponds tagCall resolved)) attributes entries)
      (properties : PropsCorrespond opening entries props)
      (inner : ChildrenCorrespond (Corresponds tagCall resolved) children after)
      (generic : call .generic = .expr (.call span tagCall
        (.expr (.string tag.span tag.label) :: .expr (props .generic) ::
          lastArgument span after .generic)))
      (grouped : call .grouped = .expr (.call span tagCall
        (.expr (.string tag.span tag.label) :: .expr (props .grouped) ::
          lastArgument span after .grouped)))
      (targeted : call .targeted = .expr (.call span (resolved tag)
        (.expr (props .targeted) :: lastArgument span after .targeted))) :
      Corresponds tagCall resolved (.markup (.element span opening tag attributes children)) call

namespace ChildrenCorrespond

variable {related : Node → (Mode → Node) → Prop}

theorem append {first second : List Child} {left right : List (Mode → LoweredChild)}
    (head : ChildrenCorrespond related first left)
    (tail : ChildrenCorrespond related second right) :
    ChildrenCorrespond related (first ++ second) (left ++ right) := by
  induction head with
  | nil => exact tail
  | cons child _ inductionHypothesis =>
      rw [List.cons_append, List.append_assoc]
      exact .cons child inductionHypothesis

theorem singleton {child : Child} {after : List (Mode → LoweredChild)}
    (corresponds : ChildCorresponds related child after) :
    ChildrenCorrespond related [child] after := by
  rw [← List.append_nil after]
  exact .cons corresponds .nil

theorem reverse {children : List Child} {after : List (Mode → LoweredChild)}
    (corresponds : ChildrenCorrespond related children after) :
    ChildrenCorrespond related children.reverse after.reverse := by
  induction corresponds with
  | nil => exact .nil
  | @cons child children first rest head _ inductionHypothesis =>
      -- A child leaves at most one entry, which is its own reverse.
      have short : first.reverse = first := by cases head <;> rfl
      rw [List.reverse_cons, List.reverse_append, short]
      exact inductionHypothesis.append (singleton head)

/-- Trimming looks at texts only, and so it does the same in all modes. -/
theorem trimHead (side : Side) {children : List Child} {after : List (Mode → LoweredChild)}
    (corresponds : ChildrenCorrespond related children after) :
    ∃ trimmed, ChildrenCorrespond related children trimmed ∧
      ∀ mode, LoweredChild.trimHead side (after.map fun child => child mode) =
        trimmed.map fun child => child mode := by
  induction corresponds with
  | nil => exact ⟨[], .nil, fun _ => rfl⟩
  | @cons child children first rest head tail inductionHypothesis =>
      cases head with
      | dropped span value raw =>
          obtain ⟨trimmed, corresponds, equal⟩ := inductionHypothesis
          exact ⟨trimmed, .cons (.dropped span value raw) corresponds, equal⟩
      | text span value raw content =>
          cases decision : content.trim side rest.isEmpty with
          | keep =>
              refine ⟨_, .cons (.text span value raw content) tail, ?_⟩
              intro mode
              simp [LoweredChild.trimHead, decision]
          | replace other =>
              refine ⟨_, .cons (.text span value raw other) tail, ?_⟩
              intro mode
              simp [LoweredChild.trimHead, decision]
          | remove =>
              refine ⟨_, .cons (.dropped span value raw) tail, ?_⟩
              intro mode
              simp [LoweredChild.trimHead, decision]
      | markup inner => exact ⟨_, .cons (.markup inner) tail, fun _ => rfl⟩
      | braced inner => exact ⟨_, .cons (.braced inner) tail, fun _ => rfl⟩
      | spread inner => exact ⟨_, .cons (.spread inner) tail, fun _ => rfl⟩

theorem trimEdge (side : Side) {children : List Child} {after : List (Mode → LoweredChild)}
    (corresponds : ChildrenCorrespond related children after) :
    ∃ trimmed, ChildrenCorrespond related children trimmed ∧
      ∀ mode, LoweredChild.trimEdge side (after.map fun child => child mode) =
        trimmed.map fun child => child mode := by
  cases side with
  | first => exact corresponds.trimHead .first
  | last =>
      obtain ⟨trimmed, reversed, equal⟩ := corresponds.reverse.trimHead .last
      have forward := reversed.reverse
      rw [List.reverse_reverse] at forward
      refine ⟨trimmed.reverse, forward, ?_⟩
      intro mode
      rw [LoweredChild.trimEdge, ← List.map_reverse, equal, List.map_reverse]

theorem normalize {children : List Child} {after : List (Mode → LoweredChild)}
    (corresponds : ChildrenCorrespond related children after) :
    ∃ trimmed, ChildrenCorrespond related children trimmed ∧
      ∀ mode, LoweredChild.normalize (after.map fun child => child mode) =
        trimmed.map fun child => child mode := by
  obtain ⟨started, left, first⟩ := corresponds.trimEdge .first
  obtain ⟨trimmed, right, last⟩ := left.trimEdge .last
  refine ⟨trimmed, right, ?_⟩
  intro mode
  rw [LoweredChild.normalize, first, last]

end ChildrenCorrespond

namespace Group

theorem insert_ne_nil (entry : Entry) (groups : List Group) : insert entry groups ≠ [] := by
  unfold insert
  split
  · simp
  · split <;> simp

theorem ofEntries_ne_nil {entries : List Entry} (nonempty : entries ≠ []) :
    ofEntries entries ≠ [] := by
  induction entries using List.reverseRecOn with
  | nil => exact absurd rfl nonempty
  | append_singleton front entry _ =>
      rw [ofEntries, List.foldl_append]
      exact insert_ne_nil entry _

end Group

theorem propsCorrespond (opening : Span) (entries : List (Mode → Entry)) :
    PropsCorrespond opening entries
      fun mode => props mode opening (entries.map fun entry => entry mode) := by
  cases entries with
  | nil =>
      have null : (fun mode => props mode opening (([] : List (Mode → Entry)).map
          fun entry => entry mode)) = fun _ => Expr.null opening := by
        funext mode
        cases mode <;> rfl
      rw [null]
      exact .none
  | cons entry rest =>
      have groups : Group.ofEntries ((entry :: rest).map fun entry => entry .grouped) ≠ [] :=
        Group.ofEntries_ne_nil (by simp)
      refine .some (by simp) ?_ ?_ ?_
      · simp [props, flatProps, objectOrNull]
      · simp [props, flatProps, objectOrNull]
      · simp only [props, groupedProps, objectOrNull]
        rw [if_neg (by simpa using groups)]

namespace Node

/-- Whether the node is a part of markup that leaves no expression of its own. -/
def isLoose : Node → Bool
  | attr _ | child _ => true
  | _ => false

/-- The node that takes the place of a node, if that is not loose. -/
def image (targets : Targets) (node : Node) : Node := (node.lower targets).value.headD node

theorem value_lower_eq_image (targets : Targets) {node : Node} (fixed : node.isLoose = false) :
    (node.lower targets).value = [node.image targets] := by
  cases node with
  | child value => cases fixed
  | _ => rfl

theorem isLoose_of_plain {node : Node} (unmarked : node.isMarkup = false) :
    node.isLoose = false := by
  cases node with
  | attr given => cases unmarked
  | child value => cases unmarked
  | _ => rfl

theorem keeps_image (targets : Targets) {node : Node} (unmarked : node.isMarkup = false) :
    Keeps targets node (node.image targets) := by
  obtain ⟨after, kept⟩ := keeps targets unmarked
  have same : node.image targets = after := by
    rw [image, kept.value]
    rfl
  rw [same]
  exact kept

attribute [local simp] isLoose Node.children Expr.children Part.children Item.children
  Property.children Key.children FunctionBody.children Statement.children Declarator.children

theorem isLoose_of_mem_children {node : Node} (unmarked : node.isMarkup = false) :
    ∀ part ∈ node.children, part.isLoose = false := by
  cases node with
  | expr value =>
      cases value with
      | markup content => simp [isMarkup] at unmarked
      | _ => simp
  | part value => cases value <;> simp
  | item value => cases value <;> simp
  | property value => cases value <;> simp
  | key value => cases value <;> simp
  | functionBody value => cases value <;> simp
  | statement value => cases value <;> simp
  | declarator value =>
      cases value
      simp
  | _ => simp [isMarkup] at unmarked

end Node

/-- Targets for all modes that agree on what is called for every tag. -/
structure Family (targets : Mode → Targets) (tagCall : Expr) : Prop where
  mode : ∀ mode, (targets mode).mode = mode
  tagCall : ∀ mode, (targets mode).tagCall = tagCall

/-- What a tag is resolved to. -/
def Targets.resolved (targets : Targets) (tag : Tag) : Expr := (targets.resolve tag).value

namespace Node

variable (targets : Mode → Targets) (tagCall : Expr)

/-- What is lowered for the modes corresponds. -/
def Mirrored : Node → Prop
  | attr given =>
      EntryCorresponds (Corresponds tagCall (targets .targeted).resolved) given
        fun mode => (given.lower (targets mode)).value
  | child value =>
      ∃ after, ChildCorresponds (Corresponds tagCall (targets .targeted).resolved) value after ∧
        ∀ mode, (value.lower (targets mode)).value = after.map fun child => child mode
  | node =>
      Corresponds tagCall (targets .targeted).resolved node fun mode => node.image (targets mode)

variable {targets tagCall}

theorem mirrored_iff {node : Node} (fixed : node.isLoose = false) :
    Mirrored targets tagCall node ↔ Corresponds tagCall (targets .targeted).resolved node
      fun mode => node.image (targets mode) := by
  cases node with
  | attr given => cases fixed
  | child value => cases fixed
  | _ => exact Iff.rfl

theorem mirrored_plain {node : Node} (unmarked : node.isMarkup = false)
    (inner : ∀ part ∈ node.children, Mirrored targets tagCall part) :
    Mirrored targets tagCall node := by
  have fixed := isLoose_of_mem_children unmarked
  have parts : List.Forall₂ (Corresponds tagCall (targets .targeted).resolved) node.children
      (node.children.map fun part mode => part.image (targets mode)) := by
    rw [List.forall₂_map_right_iff, List.forall₂_same]
    intro part membership
    exact (mirrored_iff (fixed part membership)).mp (inner part membership)
  rw [mirrored_iff (isLoose_of_plain unmarked)]
  refine .plain unmarked (fun mode => (keeps_image (targets mode) unmarked).head) ?_ parts
  intro mode
  have single : (node.children.flatMap fun part => (part.lower (targets mode)).value) =
      node.children.flatMap fun part => [part.image (targets mode)] := by
    apply List.flatMap_congr
    intro part membership
    exact value_lower_eq_image (targets mode) (fixed part membership)
  rw [(keeps_image (targets mode) unmarked).children, loweredChildren, single,
    ← List.map_eq_flatMap, List.map_map]
  rfl

theorem mirrored_attr (given : Attribute)
    (inner : ∀ part ∈ given.children, Mirrored targets tagCall part) :
    Mirrored targets tagCall (attr given) := by
  cases given with
  | named span name value =>
      exact .named (inner (.attributeValue span value) (by simp [Attribute.children]))
  | spread span argument =>
      exact .spread (inner (.expr argument) (by simp [Attribute.children]))

theorem mirrored_child (value : Child)
    (inner : ∀ part ∈ value.children, Mirrored targets tagCall part) :
    Mirrored targets tagCall (child value) := by
  cases value with
  | text span value raw =>
      by_cases empty : value = ""
      · refine ⟨_, .dropped span value raw, ?_⟩
        intro mode
        simp [Child.lower, textChildren, empty]
      · refine ⟨_, .text span value raw
          ⟨span, Entity.decode value.toList, (raw.getD value).toList⟩, ?_⟩
        intro mode
        simp [Child.lower, textChildren, empty]
  | markup content =>
      exact ⟨_, .markup (inner (.markup content) (by simp [Child.children])), fun _ => rfl⟩
  | braced span content =>
      exact ⟨_, .braced (inner (.braced content) (by simp [Child.children])), fun _ => rfl⟩
  | spread span argument =>
      exact ⟨_, .spread (inner (.expr argument) (by simp [Child.children])), fun _ => rfl⟩

theorem childrenCorrespond (children : List Child)
    (inner : ∀ value ∈ children, Mirrored targets tagCall (child value)) :
    ∃ after,
      ChildrenCorrespond (Corresponds tagCall (targets .targeted).resolved) children after ∧
      ∀ mode, LoweredChild.normalize (lowerChildren (targets mode) children).value =
        after.map fun child => child mode := by
  have lowered : ∃ after,
      ChildrenCorrespond (Corresponds tagCall (targets .targeted).resolved) children after ∧
      ∀ mode, (lowerChildren (targets mode) children).value =
        after.map fun child => child mode := by
    induction children with
    | nil => exact ⟨[], .nil, fun _ => rfl⟩
    | cons value rest inductionHypothesis =>
        obtain ⟨first, head, here⟩ := inner value (by simp)
        obtain ⟨others, tail, there⟩ := inductionHypothesis fun other membership =>
          inner other (List.mem_cons_of_mem _ membership)
        refine ⟨first ++ others, .cons head tail, ?_⟩
        intro mode
        rw [List.map_append, ← here, ← there]
        rfl
  obtain ⟨after, corresponds, equal⟩ := lowered
  obtain ⟨trimmed, still, normalized⟩ := corresponds.normalize
  refine ⟨trimmed, still, ?_⟩
  intro mode
  rw [equal, normalized]

theorem forall₂_entries (attributes : List Attribute)
    (inner : ∀ given ∈ attributes, Mirrored targets tagCall (attr given)) :
    List.Forall₂ (EntryCorresponds (Corresponds tagCall (targets .targeted).resolved)) attributes
      (attributes.map fun given mode => (given.lower (targets mode)).value) := by
  rw [List.forall₂_map_right_iff, List.forall₂_same]
  exact inner

theorem toArray_eq {span : Span} {children : List LoweredChild}
    {after : List (Mode → LoweredChild)} {mode : Mode}
    (normalized : LoweredChild.normalize children = after.map fun child => child mode) :
    LoweredChild.toArray span children = childrenArray span after mode := by
  rw [LoweredChild.toArray, normalized, childrenArray, List.map_map]
  rfl

theorem childrenArgument_eq {span : Span} {children : List LoweredChild}
    {after : List (Mode → LoweredChild)} {mode : Mode}
    (normalized : LoweredChild.normalize children = after.map fun child => child mode) :
    childrenArgument span children = lastArgument span after mode := by
  rw [childrenArgument, lastArgument, toArray_eq normalized, normalized, List.isEmpty_map]

theorem mirrored_fragment (span : Span) (children : List Child)
    (inner : ∀ value ∈ children, Mirrored targets tagCall (child value)) :
    Mirrored targets tagCall (markup (.fragment span children)) := by
  obtain ⟨after, corresponds, normalized⟩ := childrenCorrespond children inner
  have array : (fun mode => (markup (.fragment span children)).image (targets mode)) =
      fun mode => expr (childrenArray span after mode) := by
    funext mode
    exact congrArg expr (toArray_eq (normalized mode))
  rw [mirrored_iff rfl, array]
  exact .fragment corresponds

theorem mirrored_element (family : Family targets tagCall) (span opening : Span) (tag : Tag)
    (attributes : List Attribute) (children : List Child)
    (given : ∀ each ∈ attributes, Mirrored targets tagCall (attr each))
    (inner : ∀ value ∈ children, Mirrored targets tagCall (child value)) :
    Mirrored targets tagCall (markup (.element span opening tag attributes children)) := by
  obtain ⟨after, corresponds, normalized⟩ := childrenCorrespond children inner
  have call : ∀ mode, (markup (.element span opening tag attributes children)).image
        (targets mode) =
      expr (.call span ((targets mode).callHead tag).value.callee
        (((targets mode).callHead tag).value.leading ++
          .expr (props mode opening ((attributes.map fun given mode =>
            (given.lower (targets mode)).value).map fun entry => entry mode)) ::
          lastArgument span after mode)) := by
    intro mode
    rw [← childrenArgument_eq (normalized mode), List.map_map]
    have entries : (lowerAttributes (targets mode) attributes).value =
        attributes.map fun given => (given.lower (targets mode)).value := by
      simp
    have lowered : (markup (.element span opening tag attributes children)).image (targets mode) =
        expr (elementCall (targets mode).mode span opening ((targets mode).callHead tag).value
          (lowerAttributes (targets mode) attributes).value
          (lowerChildren (targets mode) children).value) := rfl
    rw [lowered, entries, family.mode, elementCall]
    rfl
  refine .element (forall₂_entries attributes given) (propsCorrespond opening _) corresponds
    ?_ ?_ ?_
  · rw [call, Targets.callHead, family.mode, ← family.tagCall .generic]
    rfl
  · rw [call, Targets.callHead, family.mode, ← family.tagCall .grouped]
    rfl
  · rw [call, Targets.callHead, family.mode]
    rfl

attribute [local simp] Node.children Expr.children AttributeValue.children Braced.children
  Markup.children

theorem mirrored_step (family : Family targets tagCall) (node : Node)
    (inner : ∀ part ∈ node.children, Mirrored targets tagCall part) :
    Mirrored targets tagCall node := by
  cases node with
  | expr value =>
      cases value with
      | markup content => exact .wrapped (.markup content) (inner (.markup content) (by simp))
      | _ => exact mirrored_plain rfl inner
  | markup content =>
      cases content with
      | element span opening tag attributes children =>
          apply mirrored_element family
          · intro given membership
            exact inner (.attr given) (by simp [membership])
          · intro value membership
            exact inner (.child value) (by simp [membership])
      | fragment span children =>
          apply mirrored_fragment
          intro value membership
          exact inner (.child value) (by simp [membership])
  | attr given => exact mirrored_attr given inner
  | attributeValue owner value =>
      cases value with
      | bare => exact .bare owner
      | text span value => exact .literal owner span value
      | braced span content =>
          exact .wrapped (.bracedValue owner span content)
            (inner (.braced content) (by simp))
      | markup content =>
          exact .wrapped (.markupValue owner content)
            (inner (.markup content) (by simp))
  | braced content =>
      cases content with
      | expr value => exact .wrapped (.braced value) (inner (.expr value) (by simp))
      | empty span => exact .nothing span
  | child value => exact mirrored_child value inner
  | _ => exact mirrored_plain rfl inner

theorem mirrored (family : Family targets tagCall) (node : Node) :
    Mirrored targets tagCall node := by
  induction node using Node.induction with
  | step node inductionHypothesis => exact mirrored_step family node inductionHypothesis

end Node

namespace Program

/-- The program is accepted in all modes, and what it is lowered to in each of them is the same
but for calls, which correspond. -/
structure ModesCorrespond (options : Options) (program : Program) (results : Mode → Lowered) :
    Prop where
  accepted : ∀ mode, (transform { options with mode } program).outcome = .ok (results mode)
  directives : ∀ mode, (results mode).program.directives = program.directives
  count : ∀ mode, (results mode).count = program.nodes.countP Node.isPiece
  body : ∃ statements : List (Mode → Statement),
    (∀ mode, (results mode).program.body = statements.map fun statement => statement mode) ∧
    List.Forall₂
      (fun before after => Corresponds (.ofPath options.tagCall)
        (program.targets { options with mode := .targeted }).resolved (.statement before)
        fun mode => .statement (after mode))
      program.body statements

variable (options : Options) (program : Program)

theorem family_targets :
    Family (fun mode => program.targets { options with mode }) (.ofPath options.tagCall) :=
  ⟨fun _ => rfl, fun _ => rfl⟩

/-- What the program is lowered to, if it is accepted. -/
def result (options : Options) (program : Program) : Lowered :=
  ⟨{ program with body := (program.lowerBody options).value },
    (program.lowerBody options).effect.count⟩

variable {options program}

theorem outcome_of_targeted {lowered : Lowered}
    (accepted : (transform { options with mode := .targeted } program).outcome = .ok lowered)
    (mode : Mode) :
    (transform { options with mode } program).outcome =
      .ok (program.result { options with mode }) := by
  rw [outcome_eq_ok_iff]
  refine ⟨?_, rfl⟩
  by_cases targeted : mode = .targeted
  · rw [targeted]
    exact ((outcome_eq_ok_iff _ program lowered).mp accepted).1
  · exact program.diagnostics_lowerBody_of_ne targeted

theorem modesCorrespond_result {lowered : Lowered}
    (accepted : (transform { options with mode := .targeted } program).outcome = .ok lowered) :
    program.ModesCorrespond options fun mode => program.result { options with mode } where
  accepted := outcome_of_targeted accepted
  directives _ := rfl
  count mode := program.count_lowerBody { options with mode }
  body := by
    refine ⟨program.body.map fun statement mode =>
      (statement.lower (program.targets { options with mode })).value, ?_, ?_⟩
    · intro mode
      simp only [result, lowerBody, Report.value_mapM, List.map_map]
      rfl
    · rw [List.forall₂_map_right_iff, List.forall₂_same]
      intro statement _
      exact Node.mirrored (family_targets options program) (.statement statement)

end Program

/-- The program `<Nav data-id=<></> title="q"> {<b/>} t </Nav>`. -/
def Program.navigation : Program where
  source := "<Nav data-id=<></> title=\"q\"> {<b/>} t </Nav>"
  comments := []
  directives := []
  body :=
    [.expression ⟨0, 45⟩ (.markup (.element ⟨0, 45⟩ ⟨0, 29⟩ (.reference ⟨⟨1, 4⟩, "Nav"⟩)
      [.named ⟨5, 18⟩ (.plain ⟨⟨5, 12⟩, "data-id"⟩) (.markup (.fragment ⟨13, 18⟩ [])),
        .named ⟨19, 28⟩ (.plain ⟨⟨19, 24⟩, "title"⟩) (.text ⟨25, 28⟩ "q")]
      [.text ⟨29, 30⟩ " " none,
        .braced ⟨30, 36⟩ (.expr (.markup
          (.element ⟨31, 35⟩ ⟨31, 35⟩ (.intrinsic ⟨⟨32, 33⟩, "b"⟩) [] []))),
        .text ⟨36, 39⟩ " t " none]))]

end JsxLowering
