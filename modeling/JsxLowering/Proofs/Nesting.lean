import JsxLowering.Proofs.Alignment
import JsxLowering.Proofs.Trimming

set_option autoImplicit false

/-!
Spans lie in one another after lowering as they did before. A call has the span of its element,
its properties that of the opening tag, and a text at an end of the children loses as many bytes
of its span as of its source text. Only the expressions that calls are made with have no place in
the source.
-/

namespace JsxLowering

namespace TextChild

/-- The span is as long as the source text. -/
def Fits (content : TextChild) : Prop :=
  content.span.start.toNat + Text.byteLength content.raw = content.span.stop.toNat

variable {content : TextChild} (fits : content.Fits)

include fits

theorem fits_blanked : content.blanked.Fits ∧ content.blanked.span.Within content.span := by
  unfold Fits at fits
  refine ⟨rfl, UInt32.le_refl _, ?_⟩
  rw [UInt32.le_iff_toNat_le]
  exact Nat.le.intro fits

/-- Trimming narrows the span with the source text. -/
theorem fits_of_loses {side : Side} {after : TextChild} (loses : content.Loses side after) :
    after.Fits ∧ after.span.Within content.span := by
  unfold Fits at fits ⊢
  have shorter := loses.raw.byteLength_le
  have room : content.span.start.toNat +
      (Text.byteLength content.raw - Text.byteLength after.raw) ≤ content.span.stop.toNat := by
    omega
  rw [loses.span]
  cases side with
  | first =>
      have start := Span.toNat_start_dropStart room
      rw [Side.narrow, start]
      refine ⟨?_, ?_, UInt32.le_refl _⟩
      · change _ = content.span.stop.toNat
        omega
      · rw [UInt32.le_iff_toNat_le, start]
        exact Nat.le_add_right _ _
  | last =>
      have stop := Span.toNat_stop_dropEnd room
      rw [Side.narrow, stop]
      refine ⟨?_, UInt32.le_refl _, ?_⟩
      · change content.span.start.toNat + _ = _
        omega
      · rw [UInt32.le_iff_toNat_le, stop]
        exact Nat.sub_le _ _

end TextChild

theorem Expr.span_access (span : Span) (object : Expr) (property : Name) :
    (Expr.access span object property).span = span := by
  unfold access
  split <;> rfl

theorem TagObject.span_toExpr (object : TagObject) : object.toExpr.span = object.span := by
  cases object with
  | member span object property => exact Expr.span_access span _ property
  | _ => rfl

/-- The spans below the node lie in one another, except for parts that are exempt. -/
abbrev Node.Tidy (exempt : Node → Prop) : Node → Prop := Node.Throughout (Node.Nests exempt)

/-- A lowered child lies in a span, and so does all that is in it. -/
def LoweredChild.Sits (exempt : Node → Prop) (outer : Span) : LoweredChild → Prop
  | text content => content.Fits ∧ content.span.Within outer
  | expr value => value.span.Within outer ∧ (Node.expr value).Tidy exempt
  | spread span argument =>
      span.Within outer ∧ argument.span.Within span ∧ (Node.expr argument).Tidy exempt

section

variable {exempt : Node → Prop} {outer : Span}

namespace LoweredChild

theorem sits_normalize {children : List LoweredChild}
    (sits : ∀ child ∈ children, child.Sits exempt outer) :
    ∀ child ∈ normalize children, child.Sits exempt outer := by
  refine forall_mem_normalize ?_ ?_ sits
  · rintro content ⟨fits, within⟩
    obtain ⟨fits', narrower⟩ := TextChild.fits_blanked fits
    exact ⟨fits', narrower.trans within⟩
  · rintro side content after ⟨fits, within⟩ loses
    obtain ⟨fits', narrower⟩ := TextChild.fits_of_loses fits loses
    exact ⟨fits', narrower.trans within⟩

end LoweredChild

namespace Node

theorem tidy_of_parts {node : Node} (own : ∀ pair ∈ node.enclosures, pair.1.Within pair.2)
    (parts : ∀ part ∈ node.children,
      (exempt part ∨ part.LiesIn (node.room part)) ∧ part.Tidy exempt) : node.Tidy exempt := by
  refine throughout_iff.mpr ⟨⟨own, ?_⟩, ?_⟩
  · intro part membership
    exact (parts part membership).1
  · intro part membership
    exact (parts part membership).2

theorem tidy_of_leaf {node : Node} (own : node.enclosures = []) (none : node.children = []) :
    node.Tidy exempt := by
  apply tidy_of_parts
  · simp [own]
  · simp [none]

attribute [local simp] LiesIn span? room enclosures Node.children Expr.children Item.children
  Property.children Key.children Expr.span Item.span

theorem tidy_string (span : Span) (value : String) : (expr (.string span value)).Tidy exempt :=
  tidy_of_leaf rfl rfl

theorem tidy_item {value : Expr} (inner : (expr value).Tidy exempt) :
    (item (.expr value)).Tidy exempt := by
  apply tidy_of_parts
  · simp
  · simpa using inner

theorem tidy_access {span : Span} {object : Expr} {word : Name}
    (named : word.span.Within span)
    (place : exempt (expr object) ∨ object.span.Within span)
    (inner : (expr object).Tidy exempt) : (expr (.access span object word)).Tidy exempt := by
  unfold Expr.access
  split
  · apply tidy_of_parts
    · simpa using named
    · simpa using ⟨place, inner⟩
  · apply tidy_of_parts
    · simp
    · simpa [named, tidy_string] using ⟨place, inner⟩

theorem tidy_toExpr {object : TagObject}
    (own : ∀ pair ∈ object.enclosures, pair.1.Within pair.2) :
    (expr object.toExpr).Tidy exempt := by
  induction object with
  | reference name => exact tidy_of_leaf rfl rfl
  | this span => exact tidy_of_leaf rfl rfl
  | member span object property inductionHypothesis =>
      simp only [TagObject.enclosures, List.forall_mem_cons] at own
      obtain ⟨inside, named, below⟩ := own
      refine tidy_access named (.inr ?_) (inductionHypothesis below)
      rw [TagObject.span_toExpr]
      exact inside

theorem tidy_plainProperty {span : Span} (name : String) {value : Expr}
    (place : value.span.Within span) (inner : (expr value).Tidy exempt) :
    (property (plainProperty span name value)).Tidy exempt := by
  have key : (key (propertyKey name span)).Tidy exempt ∧ (propertyKey name span).span = span := by
    unfold propertyKey
    split
    · exact ⟨tidy_of_leaf rfl rfl, rfl⟩
    · refine ⟨tidy_of_parts ?_ ?_, rfl⟩
      · simp
      · simp [Key.span, tidy_string]
  apply tidy_of_parts
  · simp
  · simp [plainProperty, Property.span, key, place, inner]

theorem tidy_flat {entry : Entry} (place : entry.content.span.Within entry.span)
    (inner : (expr entry.content).Tidy exempt) : (property entry.flat).Tidy exempt := by
  cases entry with
  | property span name value => exact tidy_plainProperty name place inner
  | spread span argument =>
      apply tidy_of_parts
      · simp
      · simpa [Entry.flat, Property.span] using ⟨.inr place, inner⟩

theorem tidy_flatProps {opening : Span} {entries : List Entry}
    (tidy : ∀ entry ∈ entries, entry.span.Within opening ∧ entry.content.span.Within entry.span ∧
      (expr entry.content).Tidy exempt) :
    (expr (flatProps opening entries)).Tidy exempt := by
  unfold flatProps objectOrNull
  split
  · exact tidy_of_leaf rfl rfl
  · apply tidy_of_parts
    · simp
    · intro part membership
      simp only [Node.children, Expr.children, List.map_map, List.mem_map] at membership
      obtain ⟨entry, member, rfl⟩ := membership
      obtain ⟨inside, place, inner⟩ := tidy entry member
      refine ⟨.inr ?_, tidy_flat place inner⟩
      have span : entry.flat.span = entry.span := by cases entry <;> rfl
      simpa [span] using inside

theorem tidy_toItem {child : LoweredChild} (sits : child.Sits exempt outer) :
    (item child.toItem).Tidy exempt ∧ child.toItem.span.Within outer := by
  cases child with
  | text content => exact ⟨tidy_item (tidy_string _ _), sits.2⟩
  | expr value => exact ⟨tidy_item sits.2, sits.1⟩
  | spread span argument =>
      obtain ⟨place, inside, inner⟩ := sits
      refine ⟨tidy_of_parts ?_ ?_, place⟩
      · simp
      · simpa [LoweredChild.toItem] using ⟨.inr inside, inner⟩

theorem tidy_toArray {children : List LoweredChild}
    (sits : ∀ child ∈ children, child.Sits exempt outer) :
    (expr (LoweredChild.toArray outer children)).Tidy exempt := by
  apply tidy_of_parts
  · simp [LoweredChild.toArray]
  · intro part membership
    simp only [LoweredChild.toArray, Node.children, Expr.children, List.map_map,
      List.mem_map] at membership
    obtain ⟨child, member, rfl⟩ := membership
    obtain ⟨tidy, place⟩ := tidy_toItem (LoweredChild.sits_normalize sits child member)
    exact ⟨.inr (by simpa [LoweredChild.toArray] using place), tidy⟩

theorem tidy_elementCall {mode : Mode} (flat : mode ≠ .grouped) {span opening : Span}
    {head : CallHead} {entries : List Entry} {children : List LoweredChild}
    (opens : opening.Within span)
    (callee : (exempt (expr head.callee) ∨ head.callee.span.Within span) ∧
      (expr head.callee).Tidy exempt)
    (leading : ∀ given ∈ head.leading, given.span.Within span ∧ (item given).Tidy exempt)
    (properties : ∀ entry ∈ entries, entry.span.Within opening ∧
      entry.content.span.Within entry.span ∧ (expr entry.content).Tidy exempt)
    (sits : ∀ child ∈ children, child.Sits exempt span) :
    (expr (elementCall mode span opening head entries children)).Tidy exempt := by
  have made : (expr (props mode opening entries)).Tidy exempt ∧
      (props mode opening entries).span = opening := by
    rw [props_of_ne_grouped flat]
    refine ⟨tidy_flatProps properties, ?_⟩
    unfold flatProps objectOrNull
    split <;> rfl
  have last : ∀ given ∈ childrenArgument span children,
      given.span.Within span ∧ (item given).Tidy exempt := by
    unfold childrenArgument
    split
    · simp
    · simpa [LoweredChild.toArray] using tidy_item (tidy_toArray sits)
  apply tidy_of_parts
  · simp [elementCall]
  · intro part membership
    simp only [elementCall, Node.children, Expr.children, List.mem_cons, List.mem_map,
      List.mem_append] at membership
    rcases membership with rfl | ⟨given, begins | rfl | ends, rfl⟩
    · exact ⟨by simpa [elementCall] using callee.1, callee.2⟩
    · obtain ⟨place, tidy⟩ := leading given begins
      exact ⟨.inr (by simpa [elementCall] using place), tidy⟩
    · exact ⟨.inr (by simpa [elementCall, made.2] using opens), tidy_item made.1⟩
    · obtain ⟨place, tidy⟩ := last given ends
      exact ⟨.inr (by simpa [elementCall] using place), tidy⟩

end Node

end

namespace Targets

/-- The expressions that the calls of elements are made with. -/
def paths (targets : Targets) : List Expr :=
  match targets.mode with
  | .targeted => targets.dom :: targets.components.toList
  | _ => [targets.tagCall]

/-- The node is one of the expressions that calls are made with. -/
def IsPath (targets : Targets) (node : Node) : Prop := ∃ path ∈ targets.paths, node = .expr path

variable {targets : Targets}
  (tidy : ∀ path ∈ targets.paths, (Node.expr path).Tidy targets.IsPath)

include tidy

theorem tidy_access_path {path : Expr} (member : path ∈ targets.paths) (name : Name) :
    (Node.expr (.access name.span path name)).Tidy targets.IsPath :=
  Node.tidy_access (.refl _) (.inl ⟨path, member, rfl⟩) (tidy path member)

theorem tidy_resolvePlain (targeted : targets.mode = .targeted) (name : Name) (bound : Bool) :
    (Node.expr (targets.resolvePlain name bound)).Tidy targets.IsPath ∧
      (targets.resolvePlain name bound).span = name.span := by
  have dom : targets.dom ∈ targets.paths := by simp [paths, targeted]
  have onDom := tidy_access_path tidy dom name
  unfold resolvePlain
  split
  · exact ⟨onDom, Expr.span_access _ _ _⟩
  · split
    next components given =>
      have member : components ∈ targets.paths := by simp [paths, targeted, given]
      exact ⟨tidy_access_path tidy member name, Expr.span_access _ _ _⟩
    next _ =>
      split
      · exact ⟨Node.tidy_of_leaf rfl rfl, rfl⟩
      · exact ⟨onDom, Expr.span_access _ _ _⟩

theorem tidy_resolve (targeted : targets.mode = .targeted) {tag : Tag}
    (own : ∀ pair ∈ tag.enclosures, pair.1.Within pair.2) :
    (Node.expr (targets.resolve tag).value).Tidy targets.IsPath ∧
      (targets.resolve tag).value.span.Within tag.span := by
  cases tag with
  | intrinsic name =>
      obtain ⟨callee, span⟩ := tidy_resolvePlain tidy targeted name false
      exact ⟨callee, by simp [resolve, span, Tag.span]⟩
  | reference name =>
      obtain ⟨callee, span⟩ := tidy_resolvePlain tidy targeted name true
      exact ⟨callee, by simp [resolve, span, Tag.span]⟩
  | namespaced span space name =>
      exact ⟨Node.tidy_of_leaf rfl rfl, own (name.span, span) (by simp [Tag.enclosures])⟩
  | member span object property =>
      simp only [Tag.enclosures, List.forall_mem_cons] at own
      obtain ⟨inside, named, below⟩ := own
      constructor
      · refine Node.tidy_access named (.inr ?_) (Node.tidy_toExpr below)
        rw [TagObject.span_toExpr]
        exact inside
      · simp [resolve, Expr.span_access, Tag.span]
  | this span => exact ⟨Node.tidy_of_leaf rfl rfl, .refl _⟩

theorem tidy_callHead {tag : Tag} (own : ∀ pair ∈ tag.enclosures, pair.1.Within pair.2) :
    ((targets.IsPath (.expr (targets.callHead tag).value.callee) ∨
        (targets.callHead tag).value.callee.span.Within tag.span) ∧
      (Node.expr (targets.callHead tag).value.callee).Tidy targets.IsPath) ∧
    ∀ given ∈ (targets.callHead tag).value.leading,
      given.span.Within tag.span ∧ (Node.item given).Tidy targets.IsPath := by
  by_cases targeted : targets.mode = .targeted
  · have head : (targets.callHead tag).value = ⟨(targets.resolve tag).value, []⟩ := by
      simp [callHead, targeted]
    obtain ⟨callee, place⟩ := tidy_resolve tidy targeted own
    rw [head]
    exact ⟨⟨.inr place, callee⟩, by simp⟩
  · have head : (targets.callHead tag).value =
        ⟨targets.tagCall, [.expr (.string tag.span tag.label)]⟩ := by
      cases mode : targets.mode <;> simp_all [callHead]
    have member : targets.tagCall ∈ targets.paths := by
      cases mode : targets.mode <;> simp_all [paths]
    rw [head]
    refine ⟨⟨.inl ⟨_, member, rfl⟩, tidy _ member⟩, ?_⟩
    intro given membership
    obtain rfl := List.mem_singleton.mp membership
    exact ⟨.refl _, Node.tidy_item (Node.tidy_string _ _)⟩

end Targets

namespace Node

/-- What has to hold of a node before it is lowered. -/
structure Sound (node : Node) : Prop where
  nests : node.Nests fun _ => False
  measured : node.Measured

theorem Sound.liesIn {node : Node} (sound : node.Sound) (part : Node)
    (membership : part ∈ node.children) : part.LiesIn (node.room part) :=
  (sound.nests.parts part membership).resolve_left id

/-- The span that what takes the place of a node is to lie in. -/
def area : Node → Option Span
  | attributeValue owner value => some (value.span?.getD owner)
  | node => node.span?

/-- What takes the place of a node lies where the node was, and is tidy itself. -/
def Settles (targets : Targets) (node : Node) : Prop :=
  ∀ after ∈ (node.lower targets).value, after.Tidy targets.IsPath ∧ after.LiesIn node.area

theorem liesIn_self {node : Node} {outer : Option Span} (same : node.span? = outer) :
    node.LiesIn outer := by
  intro inner membership place given
  rw [same] at membership
  cases Option.mem_unique membership given
  exact .refl _

variable {targets : Targets}

theorem settles_of_plain {node : Node} (plain : node.isMarkup = false) (sound : node.Sound)
    (parts : ∀ part ∈ node.children, part.Settles targets) : node.Settles targets := by
  have outside := isOutside_of_plain plain
  have area : node.area = node.span? := by cases node <;> first | rfl | cases plain
  intro after membership
  rw [value_lower_of_isOutside targets outside] at membership
  obtain rfl := List.mem_singleton.mp membership
  constructor
  · refine throughout_iff.mpr ⟨nests_image targets plain sound.nests, ?_⟩
    intro below member
    rw [children_image targets plain] at member
    obtain ⟨part, inside, rfl⟩ := List.mem_map.mp member
    apply (parts part inside _ _).1
    rw [value_lower_of_isOutside targets (isOutside_of_mem_children plain part inside)]
    exact List.mem_singleton_self _
  · rw [area]
    exact liesIn_self (span?_image targets outside)

theorem Settles.of_part {node part : Node} {inner : Span} (settles : part.Settles targets)
    (same : (node.lower targets).value = (part.lower targets).value)
    (known : part.area = some inner) (inside : ∀ outer ∈ node.area, inner.Within outer) :
    node.Settles targets := by
  intro after membership
  rw [same] at membership
  obtain ⟨tidy, lies⟩ := settles after membership
  refine ⟨tidy, ?_⟩
  intro span here outer there
  rw [known] at lies
  exact (lies span here inner rfl).trans (inside outer there)

theorem settles_of_leaf {node : Node} {after : Expr}
    (lowered : (node.lower targets).value = [expr after])
    (leaf : (expr after).children = []) (own : (expr after).enclosures = [])
    (place : node.area = some after.span) : node.Settles targets := by
  intro other membership
  rw [lowered] at membership
  obtain rfl := List.mem_singleton.mp membership
  exact ⟨tidy_of_leaf own leaf, liesIn_self place.symm⟩

theorem settles_attr {given : Attribute} (sound : (attr given).Sound)
    (parts : ∀ part ∈ given.children, part.Settles targets) : (attr given).Settles targets := by
  cases given with
  | named span name value =>
      have lies := sound.liesIn (attributeValue span value) List.mem_cons_self
      refine (parts (attributeValue span value) List.mem_cons_self).of_part rfl rfl ?_
      rintro _ ⟨⟩
      cases value with
      | bare => exact .refl _
      | text inner content => exact lies inner rfl span rfl
      | braced inner content => exact lies inner rfl span rfl
      | markup content => exact lies content.span rfl span rfl
  | spread span argument =>
      have lies := sound.liesIn (expr argument) List.mem_cons_self
      refine (parts (expr argument) List.mem_cons_self).of_part rfl rfl ?_
      rintro _ ⟨⟩
      exact lies argument.span rfl span rfl

theorem settles_attributeValue {owner : Span} {value : AttributeValue}
    (sound : (attributeValue owner value).Sound)
    (parts : ∀ part ∈ value.children, part.Settles targets) :
    (attributeValue owner value).Settles targets := by
  cases value with
  | bare => exact settles_of_leaf rfl rfl rfl rfl
  | text span content => exact settles_of_leaf rfl rfl rfl rfl
  | braced span content =>
      have lies := sound.liesIn (braced content) List.mem_cons_self
      refine (parts (braced content) List.mem_cons_self).of_part rfl rfl ?_
      rintro _ ⟨⟩
      exact lies content.span rfl span rfl
  | markup content =>
      refine (parts (markup content) List.mem_cons_self).of_part rfl rfl ?_
      rintro _ ⟨⟩
      exact .refl _

theorem settles_braced {content : Braced}
    (parts : ∀ part ∈ content.children, part.Settles targets) :
    (braced content).Settles targets := by
  cases content with
  | expr value =>
      refine (parts (expr value) List.mem_cons_self).of_part rfl rfl ?_
      rintro _ ⟨⟩
      exact .refl _
  | empty span => exact settles_of_leaf rfl rfl rfl rfl

theorem settles_child {value : Child} (sound : (child value).Sound)
    (parts : ∀ part ∈ value.children, part.Settles targets) : (child value).Settles targets := by
  cases value with
  | text span value raw =>
      have nothing : ((child (.text span value raw)).lower targets).value = [] := by
        simp [lower, Child.lower, textChildren, LoweredChild.content?]
      intro after membership
      rw [nothing] at membership
      cases membership
  | markup content =>
      refine (parts (markup content) List.mem_cons_self).of_part rfl rfl ?_
      rintro _ ⟨⟩
      exact .refl _
  | braced span content =>
      have lies := sound.liesIn (braced content) List.mem_cons_self
      refine (parts (braced content) List.mem_cons_self).of_part rfl rfl ?_
      rintro _ ⟨⟩
      exact lies content.span rfl span rfl
  | spread span argument =>
      have lies := sound.liesIn (expr argument) List.mem_cons_self
      refine (parts (expr argument) List.mem_cons_self).of_part rfl rfl ?_
      rintro _ ⟨⟩
      exact lies argument.span rfl span rfl

theorem settles_expr_markup {content : Markup} (settles : (markup content).Settles targets) :
    (expr (.markup content)).Settles targets := by
  refine settles.of_part rfl rfl ?_
  rintro _ ⟨⟩
  exact .refl _

/-- What an attribute becomes lies in the attribute. -/
theorem entry_of_settles {given : Attribute} {outer : Span}
    (settles : (attr given).Settles targets) (inside : given.span.Within outer) :
    let entry := (given.lower targets).value
    entry.span.Within outer ∧ entry.content.span.Within entry.span ∧
      (expr entry.content).Tidy targets.IsPath := by
  intro entry
  obtain ⟨tidy, lies⟩ := settles (expr entry.content) (List.mem_singleton_self _)
  have span : entry.span = given.span := by cases given <;> rfl
  rw [span]
  exact ⟨inside, lies _ rfl _ rfl, tidy⟩

/-- What a child becomes lies in the child. -/
theorem sits_of_settles {value : Child} {outer : Span} (sound : (child value).Sound)
    (settles : (child value).Settles targets) (inside : value.span.Within outer) :
    ∀ lowered ∈ (value.lower targets).value, lowered.Sits targets.IsPath outer := by
  intro lowered membership
  cases value with
  | text span value raw =>
      change lowered ∈ textChildren span value raw at membership
      unfold textChildren at membership
      split at membership
      · cases membership
      · obtain rfl := List.mem_singleton.mp membership
        exact ⟨sound.measured _ rfl, inside⟩
  | markup content =>
      obtain rfl := List.mem_singleton.mp membership
      obtain ⟨tidy, lies⟩ := settles _ (List.mem_singleton_self _)
      exact ⟨(lies _ rfl _ rfl).trans inside, tidy⟩
  | braced span content =>
      obtain rfl := List.mem_singleton.mp membership
      obtain ⟨tidy, lies⟩ := settles _ (List.mem_singleton_self _)
      exact ⟨(lies _ rfl _ rfl).trans inside, tidy⟩
  | spread span argument =>
      obtain rfl := List.mem_singleton.mp membership
      obtain ⟨tidy, lies⟩ := settles _ (List.mem_singleton_self _)
      exact ⟨inside, lies _ rfl _ rfl, tidy⟩

/-- What the children of markup become lies in the markup. -/
theorem sits_lowerChildren {children : List Child} {outer : Span}
    (each : ∀ value ∈ children, (child value).Sound ∧ (child value).Settles targets ∧
      value.span.Within outer) :
    ∀ lowered ∈ (lowerChildren targets children).value, lowered.Sits targets.IsPath outer := by
  intro lowered membership
  rw [lowerChildren_eq, Report.value_map, Report.value_mapM] at membership
  obtain ⟨_, member, here⟩ := List.mem_flatten.mp membership
  obtain ⟨value, inside, rfl⟩ := List.mem_map.mp member
  obtain ⟨sound, settles, within⟩ := each value inside
  exact sits_of_settles sound settles within lowered here

theorem settles_markup (flat : targets.mode ≠ .grouped)
    (tidy : ∀ path ∈ targets.paths, (expr path).Tidy targets.IsPath) {content : Markup}
    (sound : (markup content).Sound) (below : ∀ part ∈ content.children, part.Sound)
    (parts : ∀ part ∈ content.children, part.Settles targets) :
    (markup content).Settles targets := by
  intro after membership
  obtain rfl := List.mem_singleton.mp membership
  refine ⟨?_, liesIn_self (congrArg some (content.span_lower targets))⟩
  cases content with
  | element span opening tag attributes children =>
      have own := sound.nests.own
      simp only [enclosures, List.forall_mem_cons] at own
      obtain ⟨opens, tagged, named⟩ := own
      obtain ⟨⟨callee, called⟩, leading⟩ := targets.tidy_callHead tidy named
      -- The call has the span of the element, so that what lay in the opening tag is one step
      -- further in.
      have within := tagged.trans opens
      refine tidy_elementCall flat opens ⟨?_, called⟩ ?_ ?_ ?_
      · exact callee.imp_right fun place => place.trans within
      · intro given member
        exact ⟨(leading given member).1.trans within, (leading given member).2⟩
      · intro entry member
        rw [lowerAttributes_eq, Report.value_mapM] at member
        obtain ⟨given, inside, rfl⟩ := List.mem_map.mp member
        have there : attr given ∈ (markup (.element span opening tag attributes
            children)).children := by
          simp [Node.children, Markup.children, inside]
        exact entry_of_settles (parts _ there) (sound.liesIn _ there _ rfl _ rfl)
      · apply sits_lowerChildren
        intro value inside
        have there : child value ∈ (markup (.element span opening tag attributes
            children)).children := by
          simp [Node.children, Markup.children, inside]
        exact ⟨below _ there, parts _ there, sound.liesIn _ there _ rfl _ rfl⟩
  | fragment span children =>
      apply tidy_toArray
      apply sits_lowerChildren
      intro value inside
      have there : child value ∈ (markup (.fragment span children)).children := by
        simp [Node.children, Markup.children, inside]
      exact ⟨below _ there, parts _ there, sound.liesIn _ there _ rfl _ rfl⟩

theorem settles (flat : targets.mode ≠ .grouped)
    (tidy : ∀ path ∈ targets.paths, (expr path).Tidy targets.IsPath) (node : Node)
    (sound : node.Throughout Sound) : node.Settles targets := by
  induction node using Node.induction with
  | step node inductionHypothesis =>
      obtain ⟨here, below⟩ := throughout_iff.mp sound
      have parts : ∀ part ∈ node.children, part.Settles targets := fun part membership =>
        inductionHypothesis part membership (below part membership)
      cases plain : node.isMarkup with
      | false => exact settles_of_plain plain here parts
      | true =>
          cases node with
          | expr value =>
              cases value with
              | markup content => exact settles_expr_markup (parts _ List.mem_cons_self)
              | _ => cases plain
          | markup content =>
              refine settles_markup flat tidy here ?_ parts
              intro part membership
              exact (throughout_iff.mp (below part membership)).1
          | attr given => exact settles_attr here parts
          | attributeValue owner value => exact settles_attributeValue here parts
          | braced content => exact settles_braced parts
          | child value => exact settles_child here parts
          | _ => cases plain

/-- The node and the words in it have no place in the source. -/
def Nowhere (node : Node) : Prop :=
  node.span? = some .nowhere ∧ ∀ pair ∈ node.enclosures, pair = (.nowhere, .nowhere)

theorem throughout_ofPath (exempt : Node → Prop) (path : DottedPath) :
    (expr (.ofPath path)).Throughout fun node => node.Nowhere ∧ node.Nests exempt := by
  apply Expr.ofPath_induction (motive := fun _ object =>
    (expr object).Throughout fun node => node.Nowhere ∧ node.Nests exempt) path
  · refine throughout_iff.mpr ⟨⟨⟨rfl, ?_⟩, ?_, ?_⟩, ?_⟩
    · simp [enclosures]
    · simp [enclosures]
    · simp [Node.children, Expr.children]
    · simp [Node.children, Expr.children]
  · intro words object segment below
    have span := (throughout_iff.mp below).1.1.1
    refine throughout_iff.mpr ⟨⟨⟨rfl, ?_⟩, ?_, ?_⟩, ?_⟩
    · simp [enclosures]
    · simp [enclosures]
    · intro part membership
      obtain rfl := List.mem_singleton.mp membership
      exact .inr (liesIn_self span)
    · simpa [Node.children, Expr.children] using below

end Node

namespace Program

variable (options : Options) (program : Program)

theorem throughout_paths (exempt : Node → Prop) :
    ∀ path ∈ (program.targets options).paths,
      (Node.expr path).Throughout fun node => node.Nowhere ∧ node.Nests exempt := by
  intro path membership
  have spelled : ∃ dotted, path = .ofPath dotted := by
    unfold Targets.paths at membership
    split at membership
    · rcases List.mem_cons.mp membership with rfl | given
      · exact ⟨_, rfl⟩
      · obtain ⟨dotted, _, rfl⟩ := Option.map_eq_some_iff.mp (Option.mem_toList.mp given)
        exact ⟨dotted, rfl⟩
    · obtain rfl := List.mem_singleton.mp membership
      exact ⟨_, rfl⟩
  obtain ⟨dotted, rfl⟩ := spelled
  exact Node.throughout_ofPath exempt dotted

theorem forall_nodes_iff {holds : Node → Prop} {program : Program} :
    (∀ node ∈ program.nodes, holds node) ↔
      ∀ statement ∈ program.body, (Node.statement statement).Throughout holds := by
  simp only [nodes, List.mem_flatMap, Node.Throughout, forall_exists_index, and_imp]
  exact ⟨fun every statement member node inside => every node statement member inside,
    fun every node statement member inside => every statement member node inside⟩

end Program

/-- Spans lie in one another after generic and targeted lowering if they did before and texts are
as long as their source texts. What stands in the place of an expression has its span, and only
the expressions that calls are made with lie outside of what they stand in, with no place in the
source at all. -/
theorem transform_preserves_nesting (options : Options) (program : Program) (lowered : Lowered)
    (flat : options.mode ≠ .grouped) (nested : program.Nested fun _ => False)
    (measured : program.Measured)
    (accepted : (transform options program).outcome = .ok lowered) :
    List.Forall₂ (fun before after => Node.Aligned (.statement before) (.statement after))
      program.body lowered.program.body ∧
    lowered.program.Nested (program.targets options).IsPath ∧
    ∀ path ∈ (program.targets options).paths, (Node.expr path).Throughout Node.Nowhere := by
  have paths := program.throughout_paths options (program.targets options).IsPath
  refine ⟨Program.aligned_of_accepted flat accepted, ?_, ?_⟩
  · obtain ⟨_, rfl⟩ := (outcome_eq_ok_iff options program lowered).mp accepted
    have sound : ∀ node ∈ program.nodes, node.Sound := fun node membership =>
      ⟨nested node membership, measured node membership⟩
    refine Program.forall_nodes_iff.mpr ?_
    intro after membership
    dsimp only at membership
    rw [Program.lowerBody, Report.value_mapM] at membership
    obtain ⟨statement, member, rfl⟩ := List.mem_map.mp membership
    have tidy : ∀ path ∈ (program.targets options).paths,
        (Node.expr path).Tidy (program.targets options).IsPath := fun path inside below there =>
      (paths path inside below there).2
    have settles := Node.settles flat tidy (.statement statement)
      (Program.forall_nodes_iff.mp sound statement member)
    exact (settles _ (List.mem_singleton_self _)).1
  · intro path membership below inside
    exact (paths path membership below inside).1

/-- The program `<a b={x}> t{y}</a>`. -/
def Program.spacedText : Program where
  source := "<a b={x}> t{y}</a>"
  comments := []
  directives := []
  body :=
    [.expression ⟨0, 18⟩ (.markup (.element ⟨0, 18⟩ ⟨0, 9⟩ (.intrinsic ⟨⟨1, 2⟩, "a"⟩)
      [.named ⟨3, 8⟩ (.plain ⟨⟨3, 4⟩, "b"⟩)
        (.braced ⟨5, 8⟩ (.expr (.identifier ⟨6, 7⟩ "x" true)))]
      [.text ⟨9, 11⟩ " t" none, .braced ⟨11, 14⟩ (.expr (.identifier ⟨12, 13⟩ "y" true))]))]

theorem transform_preserves_nesting_spaced_text :
    Program.spacedText.Nested (fun _ => False) ∧ Program.spacedText.Measured ∧
    ∃ lowered, (transform .standard .spacedText).outcome = .ok lowered ∧
      List.Forall₂ (fun before after => Node.Aligned (.statement before) (.statement after))
        Program.spacedText.body lowered.program.body ∧
      lowered.program.Nested (Program.spacedText.targets .standard).IsPath ∧
      ∀ path ∈ (Program.spacedText.targets .standard).paths,
        (Node.expr path).Throughout Node.Nowhere := by
  have nested : Program.spacedText.Nested fun _ => False := by decide +kernel
  have measured : Program.spacedText.Measured := by decide +kernel
  refine ⟨nested, measured, _, rfl, ?_⟩
  exact transform_preserves_nesting .standard .spacedText _ (by decide) nested measured rfl

end JsxLowering
