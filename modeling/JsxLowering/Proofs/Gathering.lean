import JsxLowering.Proofs.Unfolding

set_option autoImplicit false

/-!
What can be found in a tree before and after it has been lowered. A finding is picked
from the head of a node. Lowering moves the expressions of markup into calls, objects
and arrays that it makes itself; a way of picking that finds nothing in these finds the
same things in the same order afterwards, or with grouped properties the same things in
some order. Only an element's tag may add something at its place.
-/

namespace JsxLowering

/-- The same list, or with grouped properties the same up to order. -/
def Alike {α : Type} (mode : Mode) (first second : List α) : Prop :=
  match mode with
  | .grouped => first.Perm second
  | _ => first = second

namespace Alike

variable {α β : Type} {mode : Mode}

theorem of_eq {first second : List α} (equal : first = second) : Alike mode first second := by
  cases mode with
  | grouped => exact List.Perm.of_eq equal
  | _ => exact equal

theorem trans {first second third : List α} (left : Alike mode first second)
    (right : Alike mode second third) : Alike mode first third := by
  cases mode with
  | grouped => exact List.Perm.trans left right
  | _ => exact Eq.trans left right

theorem append {first second third fourth : List α} (left : Alike mode first second)
    (right : Alike mode third fourth) : Alike mode (first ++ third) (second ++ fourth) := by
  cases mode with
  | grouped => exact List.Perm.append left right
  | _ => exact congrArg₂ _ left right

theorem flatMap {values : List α} {first second : α → List β}
    (alike : ∀ value ∈ values, Alike mode (first value) (second value)) :
    Alike mode (values.flatMap first) (values.flatMap second) := by
  induction values with
  | nil => exact of_eq rfl
  | cons value rest inductionHypothesis =>
      rw [List.flatMap_cons, List.flatMap_cons]
      exact (alike value (by simp)).append
        (inductionHypothesis fun other membership => alike other (by simp [membership]))

theorem eq_nil {values : List α} (alike : Alike mode values []) : values = [] := by
  cases mode with
  | grouped => exact List.Perm.eq_nil alike
  | _ => exact alike

end Alike

namespace LoweredChild

theorem content_trimHead (side : Side) (children : List LoweredChild) :
    (trimHead side children).filterMap content? = children.filterMap content? := by
  unfold trimHead
  split
  · split <;> rfl
  · rfl

theorem content_trimEdge (side : Side) (children : List LoweredChild) :
    (trimEdge side children).filterMap content? = children.filterMap content? := by
  cases side with
  | first => exact content_trimHead .first children
  | last => simp [trimEdge, List.filterMap_reverse, content_trimHead]

/-- Trimming takes away or changes texts only. -/
theorem content_normalize (children : List LoweredChild) :
    (normalize children).filterMap content? = children.filterMap content? := by
  rw [normalize, content_trimEdge, content_trimEdge]

end LoweredChild

namespace Node

variable {β : Type} (pick : Node → Option β)

/-- All that is picked from a node and the nodes below it, in the order of the walk. -/
def gather (node : Node) : List β := node.preorder.filterMap pick

theorem gather_eq (node : Node) :
    node.gather pick = (pick node).toList ++ node.children.flatMap (gather pick) := by
  have below : gather pick = fun node => node.preorder.filterMap pick := rfl
  cases found : pick node <;> simp [below, preorder_eq node, found, List.filterMap_flatMap]

/-- The kinds of nodes that lowering makes out of nothing. -/
inductive Made : Node → Prop where
  | identifier (span : Span) (name : String) : Made (expr (.identifier span name false))
  | string (span : Span) (value : String) : Made (expr (.string span value))
  | boolean (span : Span) (value : Bool) : Made (expr (.boolean span value))
  | null (span : Span) : Made (expr (.null span))
  | this (span : Span) : Made (expr (.this span))
  | member (span : Span) (object : Expr) (property : Name) :
      Made (expr (.member span object property))
  | index (span : Span) (object key : Expr) : Made (expr (.index span object key))
  | call (span : Span) (callee : Expr) (arguments : List Item) :
      Made (expr (.call span callee arguments))
  | array (span : Span) (elements : List Item) : Made (expr (.array span elements))
  | object (span : Span) (properties : List Property) : Made (expr (.object span properties))
  | element (value : Expr) : Made (item (.expr value))
  | spreadElement (span : Span) (argument : Expr) : Made (item (.spread span argument))
  | keyed (span : Span) (name : Key) (value : Expr) (shorthand computed : Bool) :
      Made (property (.keyed span name value shorthand computed))
  | spreadProperty (span : Span) (argument : Expr) : Made (property (.spread span argument))
  | nameKey (name : Name) : Made (key (.name name))
  | exprKey (value : Expr) : Made (key (.expr value))

/-- A way of picking that looks at heads only and finds nothing in what lowering makes. -/
class Selective : Prop where
  head : ∀ node : Node, pick node.head = pick node
  made : ∀ node : Node, node.Made → pick node = none

variable {pick} [Selective pick]

theorem Made.gather {node : Node} (made : node.Made) :
    node.gather pick = node.children.flatMap (gather pick) := by
  have nothing : pick node = none := Selective.made node made
  simp [gather_eq, nothing]

attribute [local simp] Made.identifier Made.string Made.boolean Made.null Made.this Made.member
  Made.index Made.call Made.array Made.object Made.element Made.spreadElement Made.keyed
  Made.spreadProperty Made.nameKey Made.exprKey Made.gather Node.children Expr.children
  Item.children Property.children Key.children List.flatMap_map

@[simp]
theorem gather_access (span : Span) (object : Expr) (name : Name) :
    (expr (.access span object name)).gather pick = (expr object).gather pick := by
  unfold Expr.access
  split <;> simp

@[simp]
theorem gather_ofPath (path : DottedPath) : (expr (.ofPath path)).gather pick = [] := by
  apply Expr.ofPath_induction (motive := fun _ object => (expr object).gather pick = []) path
  · simp
  · intro words object segment nothing
    simpa using nothing

@[simp]
theorem gather_toExpr (object : TagObject) : (expr object.toExpr).gather pick = [] := by
  induction object with
  | reference name => simp [TagObject.toExpr]
  | this span => simp [TagObject.toExpr]
  | member span object property inductionHypothesis =>
      simp [TagObject.toExpr, inductionHypothesis]

@[simp]
theorem gather_plainProperty (span : Span) (name : String) (value : Expr) :
    (property (plainProperty span name value)).gather pick = (expr value).gather pick := by
  unfold plainProperty propertyKey
  split <;> simp

@[simp]
theorem gather_objectOrNull (span : Span) (properties : List Property) :
    (expr (objectOrNull span properties)).gather pick =
      properties.flatMap fun given => (property given).gather pick := by
  cases properties <;> simp [objectOrNull]

theorem gather_flat (entry : Entry) :
    (property entry.flat).gather pick = (expr entry.content).gather pick := by
  cases entry with
  | property span name value => exact gather_plainProperty span name value
  | spread span argument => simp [Entry.flat, Entry.content]

theorem gather_inGroup (entry : Entry) :
    (property entry.inGroup).gather pick = (expr entry.content).gather pick := by
  cases entry with
  | property span name value => exact gather_plainProperty span _ value
  | spread span argument => simp [Entry.inGroup, Entry.content]

theorem gather_toProperty (group : Group) :
    (property group.toProperty).gather pick =
      group.properties.flatMap fun given => (property given).gather pick := by
  rw [Group.toProperty, gather_plainProperty, gather_objectOrNull]

/-- All that is picked from the entries of an element, in their order. -/
def gatherEntries (pick : Node → Option β) (entries : List Entry) : List β :=
  entries.flatMap fun entry => (expr entry.content).gather pick

def gatherGroups (pick : Node → Option β) (groups : List Group) : List β :=
  groups.flatMap fun group => group.properties.flatMap fun given => (property given).gather pick

theorem gatherGroups_insert (entry : Entry) (groups : List Group) :
    (gatherGroups pick (Group.insert entry groups)).Perm
      (gatherGroups pick groups ++ (expr entry.content).gather pick) := by
  induction groups with
  | nil => simp [gatherGroups, Group.insert, gather_inGroup]
  | cons group rest inductionHypothesis =>
      unfold Group.insert
      split
      · simp only [gatherGroups, List.flatMap_cons, List.flatMap_append, List.flatMap_nil,
          List.append_nil, gather_inGroup, List.append_assoc]
        exact List.perm_append_comm.append_left _
      · simp only [gatherGroups, List.flatMap_cons, List.append_assoc] at inductionHypothesis ⊢
        exact inductionHypothesis.append_left _

theorem gatherGroups_ofEntries (entries : List Entry) :
    (gatherGroups pick (Group.ofEntries entries)).Perm (gatherEntries pick entries) := by
  have folded : ∀ (rest : List Entry) (groups : List Group),
      (gatherGroups pick (rest.foldl (fun groups entry => Group.insert entry groups) groups)).Perm
        (gatherGroups pick groups ++ gatherEntries pick rest) := by
    intro rest
    induction rest with
    | nil => simp [gatherEntries]
    | cons entry rest inductionHypothesis =>
        intro groups
        refine (inductionHypothesis _).trans ?_
        simp only [gatherEntries, List.flatMap_cons, ← List.append_assoc]
        exact (gatherGroups_insert entry groups).append_right _
  simpa [gatherGroups, Group.ofEntries] using folded entries []

theorem gather_props (mode : Mode) (span : Span) (entries : List Entry) :
    Alike mode ((expr (props mode span entries)).gather pick) (gatherEntries pick entries) := by
  have flat : (expr (flatProps span entries)).gather pick = gatherEntries pick entries := by
    simp [flatProps, gatherEntries, gather_flat]
  -- Only grouping moves entries past one another.
  cases mode with
  | grouped =>
      have grouped : (expr (groupedProps span entries)).gather pick =
          gatherGroups pick (Group.ofEntries entries) := by
        simp [groupedProps, gatherGroups, gather_toProperty]
      exact (List.Perm.of_eq grouped).trans (gatherGroups_ofEntries entries)
  | generic => exact flat
  | targeted => exact flat

theorem gather_toItem (child : LoweredChild) :
    (item child.toItem).gather pick =
      child.content?.toList.flatMap fun value => (expr value).gather pick := by
  cases child <;> simp [LoweredChild.toItem, LoweredChild.content?]

/-- All that is picked from the children of an element, in their order. -/
def gatherChildren (pick : Node → Option β) (children : List LoweredChild) : List β :=
  (children.filterMap LoweredChild.content?).flatMap fun value => (expr value).gather pick

theorem gather_toArray (span : Span) (children : List LoweredChild) :
    (expr (LoweredChild.toArray span children)).gather pick = gatherChildren pick children := by
  rw [gatherChildren, ← LoweredChild.content_normalize children]
  simp [LoweredChild.toArray, gather_toItem, List.filterMap_eq_flatMap_toList, List.flatMap_assoc]

theorem gather_childrenArgument (span : Span) (children : List LoweredChild) :
    ((childrenArgument span children).flatMap fun given => (item given).gather pick) =
      gatherChildren pick children := by
  unfold childrenArgument
  split
  next empty =>
    have nothing := LoweredChild.content_normalize children
    rw [List.isEmpty_iff.mp empty] at nothing
    simp [gatherChildren, ← nothing]
  next _ => simp [gather_toArray]

/-- Picks from a tree before it is lowered: from plain nodes as before, and of markup only
from the tag of an element. -/
def noticing (pick : Node → Option β) (tagged : Tag → Option β) : Node → Option β
  | markup (.element _ _ tag _ _) => tagged tag
  | node => if node.isMarkup then none else pick node

omit [Selective pick] in
theorem noticing_of_plain (tagged : Tag → Option β) {node : Node} (plain : node.isMarkup = false) :
    noticing pick tagged node = pick node := by
  unfold noticing
  split
  · simp [isMarkup] at plain
  · simp [plain]

variable {targets : Targets} {tagged : Tag → Option β}

/-- The expressions of an attribute, a child or of braces are those of their parts. -/
theorem gather_wrapper {node : Node} (inside : node.isMarkup = true)
    (outside : ∀ content, node ≠ markup content) :
    (noticing pick tagged node).toList ++ (node.loweredChildren targets).flatMap (gather pick) =
      (node.lower targets).value.flatMap (gather pick) := by
  have unnoticed : noticing pick tagged node = none := by
    unfold noticing
    split
    · exact absurd rfl (outside _)
    · simp [inside]
  -- The node itself goes away, so that what takes its place is all there is to compare.
  rw [unnoticed]
  cases node with
  | expr value =>
      cases value with
      | markup content => simp [loweredChildren, lower, Expr.lower]
      | _ => simp [isMarkup] at inside
  | attr given =>
      cases given <;>
        simp [loweredChildren, lower, Attribute.lower, Attribute.children, Entry.content]
  | attributeValue owner value =>
      cases value <;> simp [loweredChildren, lower, AttributeValue.lower, AttributeValue.children]
  | braced content =>
      cases content <;> simp [loweredChildren, lower, Braced.lower, Braced.children]
  | child value =>
      cases value with
      | text span value raw =>
          simp [loweredChildren, lower, Child.lower, Child.children, textChildren,
            LoweredChild.content?]
      | _ => simp [loweredChildren, lower, Child.lower, Child.children, LoweredChild.content?]
  | markup content => exact absurd rfl (outside content)
  | _ => simp [isMarkup] at inside

omit [Selective pick] in
theorem loweredChildren_element (span opening : Span) (tag : Tag) (attributes : List Attribute)
    (children : List Child) :
    ((markup (.element span opening tag attributes children)).loweredChildren targets).flatMap
        (gather pick) =
      gatherEntries pick (lowerAttributes targets attributes).value ++
        gatherChildren pick (lowerChildren targets children).value := by
  simp [gatherEntries, gatherChildren, loweredChildren, lower, Markup.children, ← List.flatMap_def,
    List.filterMap_flatMap, List.flatMap_assoc]

omit [Selective pick] in
theorem loweredChildren_fragment (span : Span) (children : List Child) :
    ((markup (.fragment span children)).loweredChildren targets).flatMap (gather pick) =
      gatherChildren pick (lowerChildren targets children).value := by
  simp [gatherChildren, loweredChildren, lower, Markup.children, ← List.flatMap_def,
    List.filterMap_flatMap, List.flatMap_assoc]

theorem gather_leading (tag : Tag) :
    ((targets.callHead tag).value.leading.flatMap fun given => (item given).gather pick) = [] := by
  unfold Targets.callHead
  cases targets.mode <;> simp

theorem gather_elementCall (span opening : Span) (tag : Tag) (entries : List Entry)
    (children : List LoweredChild) :
    Alike targets.mode
      ((expr (elementCall targets.mode span opening (targets.callHead tag).value entries
        children)).gather pick)
      ((expr (targets.callHead tag).value.callee).gather pick ++
        (gatherEntries pick entries ++ gatherChildren pick children)) := by
  have call : (expr (elementCall targets.mode span opening (targets.callHead tag).value entries
        children)).gather pick =
      (expr (targets.callHead tag).value.callee).gather pick ++
        ((expr (props targets.mode opening entries)).gather pick ++
          gatherChildren pick children) := by
    simp [elementCall, gather_leading, gather_childrenArgument]
  rw [call]
  exact (Alike.of_eq rfl).append ((gather_props _ _ _).append (Alike.of_eq rfl))

theorem gather_plain {node : Node} (plain : node.isMarkup = false) :
    (node.lower targets).value.flatMap (gather pick) =
      (noticing pick tagged node).toList ++
        (node.loweredChildren targets).flatMap (gather pick) := by
  obtain ⟨after, kept⟩ := keeps targets plain
  have same : pick after = pick node := by
    calc
      pick after = pick after.head := (Selective.head after).symm
      _ = pick node.head := by rw [kept.head]
      _ = pick node := Selective.head node
  rw [kept.value, List.flatMap_singleton, gather_eq, same, kept.children,
    noticing_of_plain tagged plain]

variable (called : ∀ tag,
  (expr (targets.callHead tag).value.callee).gather pick = (tagged tag).toList)

include called

theorem gather_markup (content : Markup) :
    Alike targets.mode (((markup content).lower targets).value.flatMap (gather pick))
      ((noticing pick tagged (markup content)).toList ++
        ((markup content).loweredChildren targets).flatMap (gather pick)) := by
  cases content with
  | element span opening tag attributes children =>
      have lowered : ((markup (.element span opening tag attributes children)).lower
          targets).value = [expr (elementCall targets.mode span opening
            (targets.callHead tag).value (lowerAttributes targets attributes).value
            (lowerChildren targets children).value)] := rfl
      rw [loweredChildren_element, lowered, List.flatMap_singleton, noticing, ← called tag]
      exact gather_elementCall span opening tag _ _
  | fragment span children =>
      have lowered : ((markup (.fragment span children)).lower targets).value =
          [expr (LoweredChild.toArray span (lowerChildren targets children).value)] := rfl
      rw [loweredChildren_fragment, lowered, List.flatMap_singleton, gather_toArray]
      exact Alike.of_eq rfl

/-- What is found after lowering a node is what is noticed at the node itself, and then
what is found in the nodes that take the place of its parts. -/
theorem gather_step (node : Node) :
    Alike targets.mode ((node.lower targets).value.flatMap (gather pick))
      ((noticing pick tagged node).toList ++
        (node.loweredChildren targets).flatMap (gather pick)) := by
  by_cases inside : node.isMarkup = true
  · by_cases outside : ∀ content, node ≠ markup content
    · exact Alike.of_eq (gather_wrapper inside outside).symm
    · obtain ⟨content, rfl⟩ := not_forall_not.mp outside
      exact gather_markup called content
  · exact Alike.of_eq (gather_plain (by simpa using inside))

/-- Lowering keeps all that is picked from a tree, and adds what is picked from tags. -/
theorem gather_lower (node : Node) :
    Alike targets.mode ((node.lower targets).value.flatMap (gather pick))
      (node.gather (noticing pick tagged)) := by
  induction node using Node.induction with
  | step node inductionHypothesis =>
      refine (gather_step called node).trans ?_
      rw [gather_eq (noticing pick tagged), loweredChildren, List.flatMap_assoc]
      exact (Alike.of_eq rfl).append (Alike.flatMap inductionHypothesis)

end Node

namespace Targets

/-- The name of a tag that is called as it stands. -/
def bareName? (targets : Targets) : Tag → Option Name
  | .reference name =>
      if targets.mode = .targeted ∧ isKnownTag name.text = false ∧ targets.components = none ∧
          isIdentifierName name.text = true then some name
      else none
  | _ => none

/-- What is picked from the tag of an element, if that is called as it stands. -/
def picked {β : Type} (targets : Targets) (pick : Node → Option β) (tag : Tag) : Option β :=
  (targets.bareName? tag).bind fun name => pick (.expr (.identifier name.span name.text true))

end Targets

namespace Program

variable {β : Type} {pick : Node → Option β} [Node.Selective pick]
variable (options : Options) (program : Program)

theorem gather_dom : (Node.expr (program.targets options).dom).gather pick = [] :=
  Node.gather_ofPath _

theorem gather_components {components : Expr}
    (given : (program.targets options).components = some components) :
    (Node.expr components).gather pick = [] := by
  obtain ⟨path, _, rfl⟩ := Option.map_eq_some_iff.mp given
  exact Node.gather_ofPath path

omit [Node.Selective pick] in
theorem gather_identifier (span : Span) (name : String) (bound : Bool) :
    (Node.expr (.identifier span name bound)).gather pick =
      (pick (.expr (.identifier span name bound))).toList := by
  simp [Node.gather_eq, Node.children, Expr.children]

theorem gather_resolvePlain (name : Name) (bound : Bool) :
    (Node.expr ((program.targets options).resolvePlain name bound)).gather pick =
      if isKnownTag name.text = false ∧ (program.targets options).components = none ∧
          isIdentifierName name.text = true then
        (pick (.expr (.identifier name.span name.text bound))).toList
      else [] := by
  unfold Targets.resolvePlain
  by_cases known : isKnownTag name.text = true
  · simp [known, gather_dom]
  · cases given : (program.targets options).components with
    | some components => simp [known, gather_components options program given]
    | none =>
        by_cases valid : isIdentifierName name.text = true
        · simp [known, valid, gather_identifier]
        · simp [known, valid, gather_dom]

theorem gather_resolve (targeted : options.mode = .targeted) (tag : Tag) :
    (Node.expr ((program.targets options).resolve tag).value).gather pick =
      ((program.targets options).picked pick tag).toList := by
  have unpicked : ∀ (span : Span) (name : String),
      pick (.expr (.identifier span name false)) = none :=
    fun span name => Node.Selective.made _ (.identifier span name)
  cases tag with
  | intrinsic name =>
      simp [Targets.resolve, Targets.picked, Targets.bareName?, gather_resolvePlain, unpicked]
  | reference name =>
      simp only [Targets.resolve, Targets.picked, Targets.bareName?, gather_resolvePlain,
        Report.value_pure, mode_targets, targeted, true_and]
      split <;> simp
  | namespaced span space name =>
      simp [Targets.resolve, Targets.picked, Targets.bareName?, gather_identifier, unpicked]
  | member span object property =>
      simp [Targets.resolve, Targets.picked, Targets.bareName?]
  | this span =>
      simp [Targets.resolve, Targets.picked, Targets.bareName?, (Node.Made.this span).gather,
        Node.children, Expr.children]

theorem gather_callee (tag : Tag) :
    (Node.expr ((program.targets options).callHead tag).value.callee).gather pick =
      ((program.targets options).picked pick tag).toList := by
  unfold Targets.callHead
  cases mode : (program.targets options).mode with
  | targeted => exact gather_resolve options program mode tag
  | _ =>
      have unnamed : (program.targets options).bareName? tag = none := by
        cases tag <;> simp_all [Targets.bareName?]
      simp only [Targets.picked, unnamed]
      exact Node.gather_ofPath _

omit [Node.Selective pick] in
theorem filterMap_nodes :
    program.nodes.filterMap pick =
      program.body.flatMap fun statement => (Node.statement statement).gather pick := by
  simp [nodes, List.filterMap_flatMap, Node.gather]

/-- A lowered program holds what the program held, and what is picked from bare tags. -/
theorem gather_transform (pick : Node → Option β) [Node.Selective pick] {lowered : Lowered}
    (accepted : (transform options program).outcome = .ok lowered) :
    Alike options.mode (lowered.program.nodes.filterMap pick)
      (program.nodes.filterMap
        (Node.noticing pick ((program.targets options).picked pick))) := by
  obtain ⟨_, rfl⟩ := (outcome_eq_ok_iff options program lowered).mp accepted
  have after : ((program.lowerBody options).value.flatMap fun statement =>
        (Node.statement statement).gather pick) =
      program.body.flatMap fun statement =>
        ((Node.statement statement).lower (program.targets options)).value.flatMap
          (Node.gather pick) := by
    simp [lowerBody, Node.lower, List.flatMap_map]
  rw [filterMap_nodes, filterMap_nodes, after]
  exact Alike.flatMap fun statement _ => Node.gather_lower (gather_callee options program) _

end Program

end JsxLowering
