import JsxLowering.Proofs.Elimination

set_option autoImplicit false

/-!
What the walk records. An element or a fragment is recorded when it is left, so that the
records of a tree stand in the order in which its nodes are left. Each record counts for
one, and a program that is accepted is said to have as many pieces of markup as it has.
-/

namespace JsxLowering

namespace Node

/-- A node and everything below it, each node after its parts. -/
def postorder (node : Node) : List Node :=
  (node.children.attach.flatMap fun child => child.1.postorder) ++ [node]
termination_by sizeOf node
decreasing_by exact sizeOf_lt_of_mem_children child.2

theorem postorder_eq (node : Node) :
    node.postorder = node.children.flatMap postorder ++ [node] := by
  rw [postorder]
  simp

/-- The two orders list the same nodes, each as often. -/
theorem postorder_perm (node : Node) : node.postorder.Perm node.preorder := by
  induction node using Node.induction with
  | step node inductionHypothesis =>
      have parts : (node.children.flatMap postorder).Perm (node.children.flatMap preorder) :=
        List.Perm.flatMap_left _ inductionHypothesis
      rw [postorder_eq, preorder_eq]
      exact (List.perm_append_singleton _ _).trans (parts.cons node)

/-- Whether the node is an element or a fragment. -/
def isPiece : Node → Bool
  | markup _ => true
  | _ => false

/-- The event of having lowered the node, if it is an element or a fragment. -/
def lowering? : Node → Option Event
  | markup (.element span ..) => some (.elementLowered span)
  | markup (.fragment span _) => some (.fragmentLowered span)
  | _ => none

/-- The text of the record about the node, if it is an element or a fragment. -/
def notice? : Node → Option String
  | markup (.element span ..) =>
      some ("lowered element at " ++ toString span.start.toNat ++ ".." ++ toString span.stop.toNat)
  | markup (.fragment span _) =>
      some ("lowered fragment at " ++ toString span.start.toNat ++ ".." ++
        toString span.stop.toNat)
  | _ => none

theorem isSome_lowering? (node : Node) : node.lowering?.isSome = node.isPiece := by
  cases node with
  | markup content => cases content <;> rfl
  | _ => rfl

theorem level_lowering? {node : Node} {event : Event} (recorded : node.lowering? = some event) :
    event.level = .trace := by
  unfold lowering? at recorded
  split at recorded <;> cases recorded <;> rfl

theorem message_lowering? (node : Node) : node.lowering?.map Event.message = node.notice? := by
  have spelled : ∀ (lead : String) (span : Span), lead ++ span.toText =
      lead ++ toString span.start.toNat ++ ".." ++ toString span.stop.toNat := by
    intro lead span
    simp only [Span.toText, String.append_assoc]
  cases node with
  | markup content =>
      cases content with
      | element span opening tag attributes children => exact congrArg some (spelled _ span)
      | fragment span children => exact congrArg some (spelled _ span)
  | _ => rfl

theorem events_entering (mode : Mode) (node : Node) : (node.entering mode).events = [] := by
  unfold entering
  split <;> rfl

theorem events_leaving (node : Node) : node.leaving.events = node.lowering?.toList := by
  cases node with
  | markup content => cases content <;> rfl
  | _ => rfl

theorem events_lower (targets : Targets) (node : Node) :
    (node.lower targets).effect.events = node.postorder.filterMap lowering? := by
  induction node using Node.induction with
  | step node inductionHypothesis =>
      have parts : (node.children.flatMap fun child => (child.lower targets).effect.events) =
          node.children.flatMap fun child => child.postorder.filterMap lowering? :=
        List.flatMap_congr inductionHypothesis
      rw [effect_lower, postorder_eq]
      simp [events_entering, events_leaving, parts, List.flatMap_map, List.flatMap_assoc,
        List.filterMap_eq_flatMap_toList]

end Node

namespace Effect

/-- An effect that counts what it records. -/
def Tallied (effect : Effect) : Prop := effect.count = effect.events.length

theorem Tallied.add {first second : Effect} (left : first.Tallied) (right : second.Tallied) :
    (first + second).Tallied := by
  unfold Tallied at *
  simp [left, right]

theorem Tallied.sum {effects : List Effect} (all : ∀ effect ∈ effects, effect.Tallied) :
    effects.sum.Tallied := by
  induction effects with
  | nil => rfl
  | cons effect rest inductionHypothesis =>
      rw [List.sum_cons]
      apply (all effect (by simp)).add
      apply inductionHypothesis
      intro other membership
      exact all other (List.mem_cons_of_mem _ membership)

end Effect

namespace Node

theorem tallied_entering (mode : Mode) (node : Node) : (node.entering mode).Tallied := by
  unfold entering
  split <;> rfl

theorem tallied_leaving (node : Node) : node.leaving.Tallied := by
  unfold leaving
  split <;> rfl

theorem tallied_lower (targets : Targets) (node : Node) :
    (node.lower targets).effect.Tallied := by
  induction node using Node.induction with
  | step node inductionHypothesis =>
      rw [effect_lower]
      refine ((tallied_entering _ node).add ?_).add (tallied_leaving node)
      apply Effect.Tallied.sum
      intro effect membership
      obtain ⟨child, below, rfl⟩ := List.mem_map.mp membership
      exact inductionHypothesis child below

end Node

namespace Program

/-- All nodes of a program, each after its parts. -/
def postorder (program : Program) : List Node :=
  program.body.flatMap fun statement => (Node.statement statement).postorder

theorem postorder_perm (program : Program) : program.postorder.Perm program.nodes :=
  List.Perm.flatMap_left _ fun statement _ => (Node.statement statement).postorder_perm

variable (options : Options) (program : Program)

theorem events_lowerBody :
    (program.lowerBody options).effect.events = program.postorder.filterMap Node.lowering? := by
  rw [effect_lowerBody, postorder, List.filterMap_flatMap]
  simp [List.flatMap_map, Node.events_lower]

theorem count_lowerBody :
    (program.lowerBody options).effect.count = program.nodes.countP Node.isPiece := by
  have tallied : (program.lowerBody options).effect.Tallied := by
    rw [effect_lowerBody]
    apply Effect.Tallied.sum
    intro effect membership
    obtain ⟨statement, _, rfl⟩ := List.mem_map.mp membership
    exact Node.tallied_lower _ _
  calc
    (program.lowerBody options).effect.count
        = (program.lowerBody options).effect.events.length := tallied
    _ = program.postorder.countP fun node => node.lowering?.isSome := by
        rw [events_lowerBody, List.length_filterMap_eq_countP]
    _ = program.postorder.countP Node.isPiece := by simp only [Node.isSome_lowering?]
    _ = program.nodes.countP Node.isPiece := program.postorder_perm.countP_eq _

/-- The header is not traced, and of the walk everything is. -/
theorem filter_log_trace :
    ((transform options program).log.filter fun event => event.level = .trace) =
      program.postorder.filterMap Node.lowering? := by
  have warnings : ((headerWarnings options program).filter fun event => event.level = .trace) =
      [] := by
    apply List.filter_eq_nil_iff.mpr
    intro event membership
    simp [level_headerWarnings membership]
  have overrides : ((overrideEvents (effectiveAnnotations options program)).filter
      fun event => event.level = .trace) = [] := by
    apply List.filter_eq_nil_iff.mpr
    intro event membership
    simp [level_overrideEvents membership]
  have walk : ((program.postorder.filterMap Node.lowering?).filter
      fun event => event.level = .trace) = program.postorder.filterMap Node.lowering? := by
    apply List.filter_eq_self.mpr
    intro event membership
    obtain ⟨node, _, recorded⟩ := List.mem_filterMap.mp membership
    simp [Node.level_lowering? recorded]
  rw [transform_eq, List.filter_append, List.filter_append, warnings, overrides, events_lowerBody,
    walk]
  rfl

end Program

/-- What is traced is one record for each element and each fragment of the program, with its
span, in the order in which they are left, whether the program is accepted or not. A program
that is accepted counts them all. -/
theorem transform_traces_markup (options : Options) (program : Program) :
    ((transform options program).log.filter fun event => event.level = .trace) =
      program.postorder.filterMap Node.lowering? ∧
    (((transform options program).log.filter fun event => event.level = .trace).map
      Event.message) = program.postorder.filterMap Node.notice? ∧
    ∀ lowered, (transform options program).outcome = .ok lowered →
      lowered.count = program.nodes.countP Node.isPiece := by
  have traced := program.filter_log_trace options
  refine ⟨traced, ?_, ?_⟩
  · rw [traced, List.map_filterMap]
    simp only [Node.message_lowering?]
  · intro lowered accepted
    obtain ⟨_, rfl⟩ := (outcome_eq_ok_iff options program lowered).mp accepted
    exact program.count_lowerBody options

/-- The program `const x = <div><a/><>{<b/>}</></div>;`. -/
def Program.fragmentAmongElements : Program where
  source := "const x = <div><a/><>{<b/>}</></div>;"
  comments := []
  directives := []
  body :=
    [.declaration ⟨0, 37⟩ .constant [.mk ⟨6, 36⟩ ⟨⟨6, 7⟩, "x"⟩ [] (some (.markup
      (.element ⟨10, 36⟩ ⟨10, 15⟩ (.intrinsic ⟨⟨11, 14⟩, "div"⟩) []
        [.markup (.element ⟨15, 19⟩ ⟨15, 19⟩ (.intrinsic ⟨⟨16, 17⟩, "a"⟩) [] []),
          .markup (.fragment ⟨19, 30⟩ [.braced ⟨21, 27⟩ (.expr (.markup
            (.element ⟨22, 26⟩ ⟨22, 26⟩ (.intrinsic ⟨⟨23, 24⟩, "b"⟩) [] [])))])])))]]

theorem transform_traces_fragment_among_elements :
    ∃ lowered, (transform .standard .fragmentAmongElements).outcome = .ok lowered ∧
      lowered.count = 4 ∧
      ((transform .standard .fragmentAmongElements).log.filter
        fun event => event.level = .trace).map Event.message =
        ["lowered element at 15..19", "lowered element at 22..26", "lowered fragment at 19..30",
          "lowered element at 10..36"] := by
  obtain ⟨_, messages, counted⟩ := transform_traces_markup .standard .fragmentAmongElements
  refine ⟨_, rfl, (counted _ rfl).trans (by decide +kernel), messages.trans ?_⟩
  decide +kernel

end JsxLowering
