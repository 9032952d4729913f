import JsxLowering.Proofs.Traverser
import JsxLowering.Proofs.Unfolding

set_option autoImplicit false

/-!
How the steps of the visitor stand to the reports of the lowering. From a state that is
ready a walk performs a report, if it leaves the reported value and adds what is reported;
it parks the reported value, as markup does; or it deposits it with the element around
it, as attributes and children do. In each case the rest of the state is as before.
-/

namespace JsxLowering

namespace Frame

def addEntries (frame : Frame) (entries : List Entry) : Frame :=
  { frame with entries := frame.entries ++ entries }

def addChildren (frame : Frame) (children : List LoweredChild) : Frame :=
  { frame with children := frame.children ++ children }

/-- An element whose opening tag is being walked. -/
def tagged (tag : ResolvedTag) (entries : List Entry) : Frame := ⟨none, some tag, entries, []⟩

/-- An element whose children are being walked. -/
def called (call : Call) (children : List LoweredChild) : Frame := ⟨some call, none, [], children⟩

theorem addEntries_addEntry (frame : Frame) (entry : Entry) (rest : List Entry) :
    (frame.addEntry entry).addEntries rest = frame.addEntries (entry :: rest) := by
  simp [addEntry, addEntries]

theorem addChildren_addChildren (frame : Frame) (first second : List LoweredChild) :
    (frame.addChildren first).addChildren second = frame.addChildren (first ++ second) := by
  simp [addChildren]

theorem addEntries_nil (frame : Frame) : frame.addEntries [] = frame := by simp [addEntries]

theorem addChildren_nil (frame : Frame) : frame.addChildren [] = frame := by simp [addChildren]

theorem addEntries_tagged (tag : ResolvedTag) (entries : List Entry) :
    (tagged tag []).addEntries entries = tagged tag entries := rfl

theorem addChildren_called (call : Call) (children : List LoweredChild) :
    (called call []).addChildren children = called call children := rfl

end Frame

namespace Traverser

/-- The state after some more has been reported. -/
def after (state : Traverser) (effect : Effect) : Traverser :=
  { state with
    count := state.count + effect.count
    errors := state.errors ++ effect.diagnostics
    log := state.log ++ effect.events }

/-- The state inside one more element or fragment. -/
def inside (state : Traverser) (frame : Frame) : Traverser :=
  { state with stack := frame :: state.stack }

/-- The state with a parked expression. -/
def parking (state : Traverser) (value : Expr) : Traverser := { state with lowered := some value }

@[simp]
theorem after_zero (state : Traverser) : state.after 0 = state := by simp [after]

@[simp]
theorem after_add (state : Traverser) (first second : Effect) :
    state.after (first + second) = (state.after first).after second := by
  simp [after, Nat.add_assoc]

/-- The targets are known, for the mode in force, and nothing is parked. -/
structure Ready (targets : Targets) (state : Traverser) : Prop where
  resolved : state.targets = some targets
  mode : state.options.mode = targets.mode
  free : state.lowered = none

variable {targets : Targets} {state : Traverser}

theorem Ready.after (ready : Ready targets state) (effect : Effect) :
    Ready targets (state.after effect) := ⟨ready.resolved, ready.mode, ready.free⟩

theorem Ready.inside (ready : Ready targets state) (frame : Frame) :
    Ready targets (state.inside frame) := ⟨ready.resolved, ready.mode, ready.free⟩

section Walks

variable {α β γ : Type}

theorem run_get (next : Traverser → Walking α) : (get >>= next) state = next state state := rfl

theorem run_bind {walk : Walking α} {final : Traverser} {value : α}
    (run : walk state = .ok (value, final)) (next : α → Walking β) :
    (walk >>= next) state = next value final := by
  simp [bind, StateT.bind, run, Except.bind]

/-- The walk leaves the reported value and adds what is reported. -/
def Performs (targets : Targets) (walk : Walking α) (report : Report α) : Prop :=
  ∀ state, Ready targets state → walk state = .ok (report.value, state.after report.effect)

/-- The walk hands over the reported value and leaves something in its place. -/
def Yields (targets : Targets) (walk : Walking (α × β)) (report : Report α) : Prop :=
  ∀ state, Ready targets state →
    ∃ left, walk state = .ok ((report.value, left), state.after report.effect)

/-- The walk parks the reported value. -/
def Parks (targets : Targets) (walk : Walking α) (report : Report Expr) : Prop :=
  ∀ state, Ready targets state →
    ∃ left, walk state = .ok (left, (state.after report.effect).parking report.value)

/-- The walk gives the reported value to the element or fragment around it. -/
def Deposits (targets : Targets) (place : Frame → β → Frame) (walk : Walking α)
    (report : Report β) : Prop :=
  ∀ state frame, Ready targets state →
    ∃ left, walk (state.inside frame) =
      .ok (left, (state.after report.effect).inside (place frame report.value))

theorem Performs.pure (value : α) : Performs targets (pure value) (pure value) := by
  intro state _
  rw [Report.effect_pure, after_zero]
  rfl

theorem Performs.bind {walk : Walking α} {report : Report α} {next : α → Walking β}
    {more : α → Report β} (first : Performs targets walk report)
    (second : ∀ value, Performs targets (next value) (more value)) :
    Performs targets (walk >>= next) (report >>= more) := by
  intro state ready
  rw [run_bind (first state ready), second _ _ (ready.after _), Report.effect_bind, after_add]
  rfl

theorem Yields.pure (value : α) (left : β) :
    Yields targets (pure (value, left)) (pure value) := by
  intro state _
  refine ⟨left, ?_⟩
  rw [Report.effect_pure, after_zero]
  rfl

theorem Deposits.pure {place : Frame → β → Frame} {value : β}
    (idle : ∀ frame, place frame value = frame) (left : α) :
    Deposits targets place (pure left) (pure value) := by
  intro state frame _
  refine ⟨left, ?_⟩
  rw [Report.effect_pure, after_zero, Report.value_pure, idle]
  rfl

/-- Two deposits after one another are one, if the second one goes with the first. -/
theorem Deposits.append {ρ σ τ : Type} {placeFirst : Frame → ρ → Frame}
    {placeRest : Frame → σ → Frame} {place : Frame → τ → Frame} {walk : Walking α}
    {report : Report ρ} {more : Walking β} {rest : Report σ} (join : ρ → σ → τ)
    (joins : ∀ frame first second,
      placeRest (placeFirst frame first) second = place frame (join first second))
    (keep : α → β → γ) (first : Deposits targets placeFirst walk report)
    (second : Deposits targets placeRest more rest) :
    Deposits targets place (do return keep (← walk) (← more))
      (do return join (← report) (← rest)) := by
  intro state frame ready
  obtain ⟨leftFirst, runFirst⟩ := first state frame ready
  obtain ⟨leftRest, runRest⟩ := second (state.after report.effect)
    (placeFirst frame report.value) (ready.after _)
  refine ⟨keep leftFirst leftRest, ?_⟩
  rw [run_bind runFirst, run_bind runRest, joins, Report.effect_bind, Report.effect_bind,
    Report.effect_pure, add_zero, after_add]
  rfl

end Walks

theorem takeLowered_parking (ready : Ready targets state) (value : Expr) :
    takeLowered (state.parking value) = .ok (value, state) := by
  have cleared : { state with lowered := none } = state := by rw [← ready.free]
  exact congrArg (fun final => Except.ok (value, final)) cleared

theorem stash_eq (ready : Ready targets state) (value : Expr) :
    stash value state = .ok ((), state.parking value) := by
  rw [stash, run_get, ready.free]
  rfl

theorem resolved_eq (ready : Ready targets state) : resolved state = .ok (targets, state) := by
  rw [resolved, run_get, ready.resolved]
  rfl

theorem finish_eq (event : Event) :
    finish event state = .ok ((), state.after ⟨[], [event], 1⟩) := by
  have reported : state.after ⟨[], [event], 1⟩ =
      { state with count := state.count + 1, log := state.log ++ [event] } := by
    simp [after]
  rw [reported]
  rfl

theorem performs_resolved : Performs targets resolved (pure targets) := by
  intro state ready
  rw [resolved_eq ready, Report.effect_pure, after_zero]
  rfl

theorem performs_complain (diagnostic : Diagnostic) :
    Performs targets (complain diagnostic) (Report.complain diagnostic) := by
  intro state _
  have reported : state.after (Report.complain diagnostic).effect =
      { state with errors := state.errors ++ [diagnostic] } := by
    simp [after, Report.effect, Report.complain]
  rw [reported]
  rfl

theorem performs_tagCallee : (tag : Tag) →
    Performs targets (tagCallee tag) (targets.resolve tag)
  | .intrinsic _ => performs_resolved.bind fun _ => .pure _
  | .reference _ => performs_resolved.bind fun _ => .pure _
  | .namespaced .. => (performs_complain _).bind fun _ => .pure _
  | .member .. => .pure _
  | .this _ => .pure _

end Traverser

/-- How a call on a resolved tag begins. -/
def ResolvedTag.head (targets : Targets) : ResolvedTag → CallHead
  | name span text => ⟨targets.tagCall, [.expr (.string span text)]⟩
  | callee value => ⟨value, []⟩

/-- A call that begins in the given way, with its properties. -/
def CallHead.call (head : CallHead) (span : Span) (argument : Expr) : Call :=
  ⟨span, head.callee, head.leading ++ [.expr argument]⟩

namespace Targets

/-- What a tag is on its way into a call. -/
def resolveTag (targets : Targets) (tag : Tag) : Report ResolvedTag :=
  match targets.mode with
  | .targeted => do return .callee (← targets.resolve tag)
  | _ => pure (.name tag.span tag.label)

theorem callHead_eq (targets : Targets) (tag : Tag) :
    targets.callHead tag = ResolvedTag.head targets <$> targets.resolveTag tag := by
  unfold callHead resolveTag
  cases targets.mode <;> simp [ResolvedTag.head]

end Targets

namespace Traverser

variable {targets : Targets} {state : Traverser}

theorem performs_resolveTag (tag : Tag) :
    Performs targets (resolveTag tag) (targets.resolveTag tag) := by
  intro state ready
  rw [resolveTag, run_get, ready.mode, Targets.resolveTag]
  cases targets.mode with
  | targeted => exact (performs_tagCallee tag).bind (fun _ => .pure _) state ready
  | _ => exact Performs.pure _ state ready

theorem callParts_eq (ready : Ready targets state) (argument : Expr) (tag : ResolvedTag) :
    callParts argument tag state =
      .ok (((tag.head targets).callee, (tag.head targets).leading ++ [.expr argument]), state) := by
  cases tag with
  | name span text => exact run_bind (resolved_eq ready) _
  | callee value => rfl

theorem enterOpening_inside (ready : Ready targets state) (tag : Tag) :
    handlers.enterOpening tag (state.inside .fresh) =
      .ok ((), (state.after (targets.resolveTag tag).effect).inside
        (.tagged (targets.resolveTag tag).value [])) := by
  have resolving := performs_resolveTag tag (state.inside .fresh) (ready.inside _)
  simp only [handlers, enterOpening, run_bind resolving]
  rfl

theorem exitOpening_inside (ready : Ready targets state) (span : Span) (tag : ResolvedTag)
    (entries : List Entry) :
    handlers.exitOpening span (state.inside (.tagged tag entries)) =
      .ok ((), state.inside
        (.called ((tag.head targets).call span (props targets.mode span entries)) [])) := by
  have taken : takeOpening (state.inside (.tagged tag entries)) =
      .ok ((tag, entries), state.inside .fresh) := rfl
  have parts := callParts_eq (ready.inside .fresh) (props targets.mode span entries) tag
  rw [← ready.mode] at parts ⊢
  simp only [handlers, exitOpening, run_bind taken, run_get]
  exact run_bind parts _

theorem append_childrenArgument (arguments : List Item) (span : Span)
    (children : List LoweredChild) :
    (if (LoweredChild.normalize children).isEmpty then arguments
      else arguments ++
        [.expr (.array span ((LoweredChild.normalize children).map LoweredChild.toItem))]) =
      arguments ++ childrenArgument span children := by
  unfold childrenArgument LoweredChild.toArray
  split <;> simp

theorem exitElement_inside (ready : Ready targets state) (span : Span) (call : Call)
    (children : List LoweredChild) :
    handlers.exitElement span (state.inside (.called call children)) =
      .ok ((), (state.after ⟨[], [.elementLowered span], 1⟩).parking
        (.call span call.callee (call.arguments ++ childrenArgument span children))) := by
  have popped : pop (state.inside (.called call children)) =
      .ok (⟨some call, none, [], children⟩, state) := rfl
  simp only [handlers, exitElement, run_bind popped, run_bind (finish_eq _),
    stash_eq (ready.after _), append_childrenArgument]

theorem exitFragment_inside (ready : Ready targets state) (span : Span)
    (children : List LoweredChild) :
    handlers.exitFragment span (state.inside (Frame.fresh.addChildren children)) =
      .ok ((), (state.after ⟨[], [.fragmentLowered span], 1⟩).parking
        (LoweredChild.toArray span children)) := by
  have popped : pop (state.inside (Frame.fresh.addChildren children)) =
      .ok (⟨none, none, [], children⟩, state) := rfl
  simp only [handlers, exitFragment, run_bind popped, run_bind (finish_eq _),
    stash_eq (ready.after _), LoweredChild.toArray]

theorem performs_exitBraced (value : Expr) :
    Performs targets (handlers.exitBraced (.expr value)) (pure (.expr value)) := by
  cases value with
  | markup content =>
      -- Leaving the expression has placed what was parked, so that nothing is left to place.
      intro state ready
      simp only [handlers, exitBraced, run_get, ready.free]
      exact Performs.pure _ state ready
  | _ => exact .pure _

section Places

variable {report : Report Expr}

/-- A parked expression takes the place of the markup that it comes from. -/
theorem Parks.place {walk : Walking Markup} (parks : Parks targets walk report) :
    Performs targets (do handlers.exitExpression (.markup (← walk))) report := by
  intro state ready
  obtain ⟨left, run⟩ := parks state ready
  rw [run_bind run]
  exact takeLowered_parking (ready.after _) _

theorem Parks.takeValue {walk : Walking Markup} (parks : Parks targets walk report)
    (owner : Span) : Yields targets (do takeValue owner (.markup (← walk))) report := by
  intro state ready
  obtain ⟨left, run⟩ := parks state ready
  refine ⟨.markup left, ?_⟩
  rw [run_bind run, Traverser.takeValue, run_bind (takeLowered_parking (ready.after _) _)]
  rfl

theorem Performs.takeValue {walk : Walking Braced}
    (performs : Performs targets walk (Braced.expr <$> report)) (span owner : Span) :
    Yields targets (do takeValue owner (.braced span (← walk))) report := by
  intro state ready
  refine ⟨.braced span (.empty span), ?_⟩
  rw [run_bind (performs state ready), Report.effect_map]
  rfl

theorem Yields.named {walk : Walking AttributeValue} (span : Span) (name : AttributeName)
    (yields : Yields targets (walk >>= takeValue span) report) :
    Deposits targets Frame.addEntry (do handlers.exitAttribute (.named span name (← walk)))
      (do return .property span name.text (← report)) := by
  intro state frame ready
  obtain ⟨left, run⟩ := yields (state.inside frame) (ready.inside _)
  refine ⟨.named span name left, ?_⟩
  simp only [handlers, exitAttribute, ← bind_assoc, run_bind run]
  rw [Report.effect_bind, Report.effect_pure, add_zero]
  rfl

theorem Performs.spreadAttribute {walk : Walking Expr} (performs : Performs targets walk report)
    (span : Span) :
    Deposits targets Frame.addEntry (do handlers.exitAttribute (.spread span (← walk)))
      (do return .spread span (← report)) := by
  intro state frame ready
  refine ⟨.spread span (.null report.value.span), ?_⟩
  rw [run_bind (performs _ (ready.inside frame)), Report.effect_bind, Report.effect_pure, add_zero]
  rfl

theorem deposits_text (span : Span) (value : String) (raw : Option String) :
    Deposits targets Frame.addChildren (handlers.exitChild (.text span value raw))
      (pure (textChildren span value raw)) := by
  intro state frame _
  refine ⟨.text span value raw, ?_⟩
  rw [Report.effect_pure, after_zero, Report.value_pure, textChildren]
  simp only [handlers, exitChild]
  split
  · rw [Frame.addChildren_nil]
    rfl
  · rfl

theorem Parks.child {walk : Walking Markup} (parks : Parks targets walk report) :
    Deposits targets Frame.addChildren (do handlers.exitChild (.markup (← walk)))
      (do return [.expr (← report)]) := by
  intro state frame ready
  have readyInside := ready.inside frame
  obtain ⟨left, run⟩ := parks _ readyInside
  refine ⟨.markup left, ?_⟩
  simp only [run_bind run, handlers, exitChild,
    run_bind (takeLowered_parking (readyInside.after _) _)]
  rw [Report.effect_bind, Report.effect_pure, add_zero]
  rfl

theorem Performs.bracedChild {walk : Walking Braced}
    (performs : Performs targets walk (Braced.expr <$> report)) (span : Span) :
    Deposits targets Frame.addChildren (do handlers.exitChild (.braced span (← walk)))
      (do return [.expr (← report)]) := by
  intro state frame ready
  refine ⟨.braced span (.empty span), ?_⟩
  rw [run_bind (performs _ (ready.inside frame)), Report.effect_map, Report.effect_bind,
    Report.effect_pure, add_zero]
  rfl

theorem Performs.spreadChild {walk : Walking Expr} (performs : Performs targets walk report)
    (span : Span) :
    Deposits targets Frame.addChildren (do handlers.exitChild (.spread span (← walk)))
      (do return [.spread span (← report)]) := by
  intro state frame ready
  refine ⟨.spread span (.null report.value.span), ?_⟩
  rw [run_bind (performs _ (ready.inside frame)), Report.effect_bind, Report.effect_pure, add_zero]
  rfl

end Places

end Traverser

end JsxLowering
