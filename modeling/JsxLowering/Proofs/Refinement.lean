import JsxLowering.Proofs.Simulation

set_option autoImplicit false

/-!
The visitor lowers in place what the recursion on the tree lowers. The induction is on the
tree, for any stack: markup is left parked, with the stack as it was, and every place that
can hold markup takes what is parked before more can be.
-/

namespace JsxLowering

namespace Traverser

variable {targets : Targets}

theorem parks_element (span opening : Span) (tag : Tag) {attributes : List Attribute}
    {children : List Child}
    (first : Deposits targets Frame.addEntries (walkAttributes handlers attributes)
      (lowerAttributes targets attributes))
    (second : Deposits targets Frame.addChildren (walkChildren handlers children)
      (lowerChildren targets children)) :
    Parks targets ((Markup.element span opening tag attributes children).walk handlers)
      ((Markup.element span opening tag attributes children).lower targets) := by
  intro state ready
  -- The frame that is pushed first is fresh, then tagged, then called, and popped at the end.
  have pushed : handlers.enterElement state = .ok ((), state.inside .fresh) := rfl
  have entered := enterOpening_inside ready tag
  have readyTag := ready.after (targets.resolveTag tag).effect
  obtain ⟨attributesLeft, filled⟩ := first _ (.tagged (targets.resolveTag tag).value []) readyTag
  rw [Frame.addEntries_tagged] at filled
  have readyEntries := readyTag.after (lowerAttributes targets attributes).effect
  have built := exitOpening_inside readyEntries opening (targets.resolveTag tag).value
    (lowerAttributes targets attributes).value
  generalize calls : (ResolvedTag.head targets (targets.resolveTag tag).value).call opening
    (props targets.mode opening (lowerAttributes targets attributes).value) = call at built
  obtain ⟨childrenLeft, completed⟩ := second _ (.called call []) readyEntries
  rw [Frame.addChildren_called] at completed
  have closed := exitElement_inside
    (readyEntries.after (lowerChildren targets children).effect) span call
    (lowerChildren targets children).value
  have value : ((Markup.element span opening tag attributes children).lower targets).value =
      .call span call.callee
        (call.arguments ++ childrenArgument span (lowerChildren targets children).value) := by
    simp [Markup.lower, Targets.callHead_eq, elementCall, CallHead.call, ← calls]
  have effect : ((Markup.element span opening tag attributes children).lower targets).effect =
      (targets.resolveTag tag).effect + ((lowerAttributes targets attributes).effect +
        ((lowerChildren targets children).effect + ⟨[], [.elementLowered span], 1⟩)) := by
    simp [Markup.lower, Targets.callHead_eq]
  refine ⟨.element span opening tag attributesLeft childrenLeft, ?_⟩
  rw [Markup.walk, run_bind pushed, run_bind entered, run_bind filled, run_bind built,
    run_bind completed, run_bind closed, value, effect, after_add, after_add, after_add]
  rfl

theorem parks_fragment (span : Span) {children : List Child}
    (deposits : Deposits targets Frame.addChildren (walkChildren handlers children)
      (lowerChildren targets children)) :
    Parks targets ((Markup.fragment span children).walk handlers)
      ((Markup.fragment span children).lower targets) := by
  intro state ready
  have pushed : handlers.enterFragment state = .ok ((), state.inside .fresh) := rfl
  obtain ⟨childrenLeft, completed⟩ := deposits state .fresh ready
  have closed := exitFragment_inside (ready.after (lowerChildren targets children).effect) span
    (lowerChildren targets children).value
  refine ⟨.fragment span childrenLeft, ?_⟩
  rw [Markup.walk, run_bind pushed, run_bind completed, run_bind closed, Markup.lower,
    Report.effect_bind, Report.effect_bind, Report.effect_lowered, Report.effect_pure, add_zero,
    after_add]
  rfl

end Traverser

open Traverser

variable (targets : Targets)

mutual

theorem Expr.performs : (value : Expr) →
    Performs targets (value.walk handlers) (value.lower targets)
  | .identifier .. => .pure _
  | .string .. => .pure _
  | .number .. => .pure _
  | .fraction .. => .pure _
  | .verbatim .. => .pure _
  | .boolean .. => .pure _
  | .null _ => .pure _
  | .this _ => .pure _
  | .member _ object _ => object.performs.bind fun _ => .pure _
  | .index _ object key => object.performs.bind fun _ => key.performs.bind fun _ => .pure _
  | .call _ callee arguments =>
      callee.performs.bind fun _ => (performsItems arguments).bind fun _ => .pure _
  | .array _ elements => (performsItems elements).bind fun _ => .pure _
  | .object _ properties => (performsProperties properties).bind fun _ => .pure _
  | .conditional _ test yes no =>
      test.performs.bind fun _ => yes.performs.bind fun _ => no.performs.bind fun _ => .pure _
  | .binary _ _ left right => left.performs.bind fun _ => right.performs.bind fun _ => .pure _
  | .logical _ _ left right => left.performs.bind fun _ => right.performs.bind fun _ => .pure _
  | .unary _ _ argument => argument.performs.bind fun _ => .pure _
  | .assign _ _ target value => target.performs.bind fun _ => value.performs.bind fun _ => .pure _
  | .update _ _ _ target => target.performs.bind fun _ => .pure _
  | .sequence _ expressions => (performsExprs expressions).bind fun _ => .pure _
  | .parenthesized _ inner => inner.performs.bind fun _ => .pure _
  | .arrow _ _ body => body.performs.bind fun _ => .pure _
  | .marked _ inner => inner.performs.bind fun _ => .pure _
  | .typed _ inner _ => inner.performs.bind fun _ => .pure _
  | .present _ inner => inner.performs.bind fun _ => .pure _
  | .form _ _ _ parts => (performsParts parts).bind fun _ => .pure _
  | .markup content => content.parks.place

theorem Part.performs : (part : Part) →
    Performs targets (part.walk handlers) (part.lower targets)
  | .piece _ => .pure _
  | .expr _ value => value.performs.bind fun _ => .pure _
  | .arguments _ items => (performsItems items).bind fun _ => .pure _
  | .body content => content.performs.bind fun _ => .pure _
  | .block _ statements => (performsStatements statements).bind fun _ => .pure _
  | .statement _ content => content.performs.bind fun _ => .pure _

theorem performsParts : (parts : List Part) →
    Performs targets (walkParts handlers parts) (lowerParts targets parts)
  | [] => .pure _
  | part :: rest => part.performs.bind fun _ => (performsParts rest).bind fun _ => .pure _

theorem performsExprs : (values : List Expr) →
    Performs targets (walkExprs handlers values) (lowerExprs targets values)
  | [] => .pure _
  | value :: rest => value.performs.bind fun _ => (performsExprs rest).bind fun _ => .pure _

theorem Item.performs : (item : Item) →
    Performs targets (item.walk handlers) (item.lower targets)
  | .expr value => value.performs.bind fun _ => .pure _
  | .spread _ argument => argument.performs.bind fun _ => .pure _
  | .hole _ => .pure _

theorem performsItems : (items : List Item) →
    Performs targets (walkItems handlers items) (lowerItems targets items)
  | [] => .pure _
  | item :: rest => item.performs.bind fun _ => (performsItems rest).bind fun _ => .pure _

theorem Key.performs : (key : Key) →
    Performs targets (key.walk handlers) (key.lower targets)
  | .name _ => .pure _
  | .expr value => value.performs.bind fun _ => .pure _

theorem Property.performs : (property : Property) →
    Performs targets (property.walk handlers) (property.lower targets)
  | .keyed _ key value _ _ => key.performs.bind fun _ => value.performs.bind fun _ => .pure _
  | .spread _ argument => argument.performs.bind fun _ => .pure _
  | .method _ parts => (performsParts parts).bind fun _ => .pure _

theorem performsProperties : (properties : List Property) →
    Performs targets (walkProperties handlers properties) (lowerProperties targets properties)
  | [] => .pure _
  | property :: rest =>
      property.performs.bind fun _ => (performsProperties rest).bind fun _ => .pure _

theorem FunctionBody.performs : (body : FunctionBody) →
    Performs targets (body.walk handlers) (body.lower targets)
  | .expr value => value.performs.bind fun _ => .pure _
  | .block _ statements => (performsStatements statements).bind fun _ => .pure _

theorem Markup.parks : (content : Markup) →
    Parks targets (content.walk handlers) (content.lower targets)
  | .element span opening tag attributes children =>
      parks_element span opening tag (depositsAttributes attributes) (depositsChildren children)
  | .fragment span children => parks_fragment span (depositsChildren children)

theorem Attribute.deposits : (given : Attribute) →
    Deposits targets Frame.addEntry (given.walk handlers) (given.lower targets)
  | .named span name value => (value.yields span).named span name
  | .spread span argument => argument.performs.spreadAttribute span

theorem depositsAttributes : (attributes : List Attribute) →
    Deposits targets Frame.addEntries (walkAttributes handlers attributes)
      (lowerAttributes targets attributes)
  | [] => .pure Frame.addEntries_nil _
  | given :: rest =>
      .append List.cons Frame.addEntries_addEntry List.cons given.deposits
        (depositsAttributes rest)

theorem AttributeValue.yields (owner : Span) : (value : AttributeValue) →
    Yields targets (value.walk handlers >>= takeValue owner) (value.lower targets owner)
  | .bare => .pure _ _
  | .text .. => .pure _ _
  -- What is taken is what the walk has left in the braces, or what it has parked.
  | .braced span content => by
      rw [AttributeValue.walk, bind_assoc]
      exact content.performs.takeValue span owner
  | .markup content => by
      rw [AttributeValue.walk, bind_assoc]
      exact content.parks.takeValue owner

theorem Braced.performs : (content : Braced) →
    Performs targets (content.walk handlers) (Braced.expr <$> content.lower targets)
  | .expr value => value.performs.bind performs_exitBraced
  | .empty _ => .pure _

theorem Child.deposits : (child : Child) →
    Deposits targets Frame.addChildren (child.walk handlers) (child.lower targets)
  | .text span value raw => deposits_text span value raw
  | .markup content => content.parks.child
  | .braced span content => content.performs.bracedChild span
  | .spread span argument => argument.performs.spreadChild span

theorem depositsChildren : (children : List Child) →
    Deposits targets Frame.addChildren (walkChildren handlers children)
      (lowerChildren targets children)
  | [] => .pure Frame.addChildren_nil _
  | child :: rest =>
      .append List.append Frame.addChildren_addChildren List.cons child.deposits
        (depositsChildren rest)

theorem Statement.performs : (statement : Statement) →
    Performs targets (statement.walk handlers) (statement.lower targets)
  | .empty _ => .pure _
  | .directive .. => .pure _
  | .expression _ value => value.performs.bind fun _ => .pure _
  | .labeled _ _ body => body.performs.bind fun _ => .pure _
  | .declaration _ _ declarators => (performsDeclarators declarators).bind fun _ => .pure _
  | .function _ _ _ _ body => (performsStatements body).bind fun _ => .pure _
  | .ret _ argument => (performsOptional argument).bind fun _ => .pure _
  | .block _ body => (performsStatements body).bind fun _ => .pure _
  | .ifElse _ test yes no =>
      test.performs.bind fun _ => yes.performs.bind fun _ =>
        (performsAlternative no).bind fun _ => .pure _
  | .exportDeclaration _ declaration => declaration.performs.bind fun _ => .pure _
  | .exportDefault _ value => value.performs.bind fun _ => .pure _
  | .marked inner => inner.performs.bind fun _ => .pure _
  | .form _ _ parts => (performsParts parts).bind fun _ => .pure _

theorem performsStatements : (statements : List Statement) →
    Performs targets (walkStatements handlers statements) (lowerStatements targets statements)
  | [] => .pure _
  | statement :: rest =>
      statement.performs.bind fun _ => (performsStatements rest).bind fun _ => .pure _

theorem performsOptional : (value : Option Expr) →
    Performs targets (walkOptional handlers value) (lowerOptional targets value)
  | none => .pure _
  | some value => value.performs.bind fun _ => .pure _

theorem performsAlternative : (statement : Option Statement) →
    Performs targets (walkAlternative handlers statement) (lowerAlternative targets statement)
  | none => .pure _
  | some statement => statement.performs.bind fun _ => .pure _

theorem Declarator.performs : (declarator : Declarator) →
    Performs targets (declarator.walk handlers) (declarator.lower targets)
  | .mk _ _ _ init => (performsOptional init).bind fun _ => .pure _

theorem performsDeclarators : (declarators : List Declarator) →
    Performs targets (walkDeclarators handlers declarators) (lowerDeclarators targets declarators)
  | [] => .pure _
  | declarator :: rest =>
      declarator.performs.bind fun _ => (performsDeclarators rest).bind fun _ => .pure _

end

namespace Traverser

theorem pathExpression_eq (path : DottedPath) (state : Traverser) :
    pathExpression path state = .ok (.ofPath path, state) := by
  obtain ⟨segments, nonempty, valid⟩ := path
  cases segments with
  | nil => exact absurd rfl nonempty
  | cons root members => rfl

theorem mapM_pathExpression (path : Option DottedPath) (state : Traverser) :
    path.mapM pathExpression state = .ok (path.map .ofPath, state) := by
  cases path with
  | none => rfl
  | some path =>
      rw [Option.mapM_some, ← bind_pure_comp, run_bind (pathExpression_eq path state)]
      rfl

/-- The state in which the statements of a program are walked. -/
def entered (options : Options) (program : Program) : Traverser :=
  { start options with
    targets := some (program.targets options)
    log := headerWarnings options program ++ overrideEvents (effectiveAnnotations options program) }

theorem enterProgram_start (options : Options) (program : Program) :
    enterProgram program (start options) = .ok ((), entered options program) := by
  have recorded (events : List Event) :
      record events (start options) = .ok ((), { start options with log := events }) := rfl
  simp only [enterProgram, run_get, run_bind (recorded _), run_bind (pathExpression_eq _ _),
    run_bind (mapM_pathExpression _ _)]
  rfl

theorem ready_entered (options : Options) (program : Program) :
    Ready (program.targets options) (entered options program) := ⟨rfl, rfl, rfl⟩

theorem walkProgram_start (options : Options) (program : Program) :
    walkProgram program (start options) =
      .ok ({ program with body := (program.lowerBody options).value },
        (entered options program).after (program.lowerBody options).effect) := by
  have walked := performsStatements (program.targets options) program.body
    (entered options program) (ready_entered options program)
  rw [lowerStatements_eq] at walked
  rw [walkProgram, run_bind (enterProgram_start options program), run_bind walked]
  rfl

theorem transform_eq_ok (options : Options) (program : Program) :
    Traverser.transform options program = .ok (JsxLowering.transform options program) := by
  have counted : ((entered options program).after (program.lowerBody options).effect).count =
      (program.lowerBody options).effect.count := Nat.zero_add _
  rw [Traverser.transform, walkProgram_start, transform_eq, ← counted]
  simp only [← List.isEmpty_iff]
  rfl

/-- The walk ends with the reported value in its place, with the stack as it was and nothing
parked, and has added what is reported. -/
def Lowers {α : Type} (state : Traverser) (walk : Walking α) (report : Report α) : Prop :=
  ∃ final, walk state = .ok (report.value, final) ∧
    final.stack = state.stack ∧ final.lowered = none ∧
    final.count = state.count + report.count ∧
    final.errors = state.errors ++ report.diagnostics ∧
    final.log = state.log ++ report.events

theorem Performs.lowers {α : Type} {targets : Targets} {state : Traverser} {walk : Walking α}
    {report : Report α} (performs : Performs targets walk report) (ready : Ready targets state) :
    state.Lowers walk report :=
  ⟨_, performs state ready, rfl, ready.free, rfl, rfl, rfl⟩

end Traverser

/-- Lowering in place refines lowering by recursion. From any state whose targets are known
and in which nothing is parked, with any stack, no walk of an expression or a statement
fails, and it leaves the lowered tree. Entering a program leads to such a state, and the
whole program is lowered in place to what it is lowered to by recursion. -/
theorem traversal_refines_lowering :
    (∀ (targets : Targets) (state : Traverser), Ready targets state →
      (∀ value : Expr, state.Lowers (value.walk handlers) (value.lower targets)) ∧
      ∀ statement : Statement,
        state.Lowers (statement.walk handlers) (statement.lower targets)) ∧
    ∀ (options : Options) (program : Program),
      (∃ state, enterProgram program (start options) = .ok ((), state) ∧
        Ready (program.targets options) state) ∧
      Traverser.transform options program = .ok (transform options program) := by
  constructor
  · intro targets state ready
    constructor
    · intro value
      exact (value.performs targets).lowers ready
    · intro statement
      exact (statement.performs targets).lowers ready
  · intro options program
    have entering := enterProgram_start options program
    exact ⟨⟨_, entering, ready_entered options program⟩, transform_eq_ok options program⟩

/-- The expression `() => <a b=<C/>>{<>x</>}</a>`. -/
def Expr.nestedMarkup : Expr :=
  .arrow ⟨0, 28⟩ [] (.expr (.markup (.element ⟨6, 28⟩ ⟨6, 16⟩ (.intrinsic ⟨⟨7, 8⟩, "a"⟩)
    [.named ⟨9, 15⟩ (.plain ⟨⟨9, 10⟩, "b"⟩)
      (.markup (.element ⟨11, 15⟩ ⟨11, 15⟩ (.reference ⟨⟨12, 13⟩, "C"⟩) [] []))]
    [.braced ⟨16, 24⟩ (.expr (.markup (.fragment ⟨17, 23⟩ [.text ⟨19, 20⟩ "x" none])))])))

/-- A state inside the opening tag of an element that is a child of a fragment. -/
def Traverser.nested : Traverser :=
  let outside := entered { Options.standard with mode := .targeted } ⟨"", [], [], [], none⟩
  (outside.inside .fresh).inside
    (.tagged (.callee (.this ⟨0, 4⟩)) [.spread ⟨5, 10⟩ (.null ⟨5, 10⟩)])

theorem traversal_refines_lowering_nested :
    ∃ targets final, Ready targets .nested ∧
      Expr.nestedMarkup.walk handlers .nested =
        .ok ((Expr.nestedMarkup.lower targets).value, final) ∧
      final.stack = Traverser.nested.stack ∧ final.lowered = none ∧ final.count = 3 := by
  have ready : Ready _ Traverser.nested := ⟨rfl, rfl, rfl⟩
  obtain ⟨final, run, stack, lowered, count, _⟩ :=
    (traversal_refines_lowering.1 _ _ ready).1 Expr.nestedMarkup
  exact ⟨_, final, ready, run, stack, lowered, count⟩

-- With something parked already, a fragment has nowhere to go.
example : (Expr.markup (.fragment ⟨0, 5⟩ [])).walk handlers
    ((start Options.standard).parking (.null ⟨0, 0⟩)) = .error .parkedTwice := rfl

end JsxLowering
