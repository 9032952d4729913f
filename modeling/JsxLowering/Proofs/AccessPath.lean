import JsxLowering.Proofs.Pieces
import JsxLowering.Proofs.Unfolding

set_option autoImplicit false

/-!
The name of a tag and the expression that it is resolved to denote the same thing. Both are made
by a recursion of their own over the tag: one joins its words by colons, the other accesses one
word after another. Read back as a list of words they agree, for a plain tag up to the target that
it is looked up on.
-/

namespace JsxLowering

namespace Expr

/-- The words of a member access, from its root through all accesses by name. -/
def accessPath? : Expr → Option (List String)
  | identifier _ name _ => some [name]
  | this _ => some ["this"]
  | member _ base property => base.accessPath?.map (· ++ [property.text])
  | index _ base (string _ key) => base.accessPath?.map (· ++ [key])
  | _ => none

@[simp]
theorem accessPath?_access (span : Span) (object : Expr) (property : Name) :
    (access span object property).accessPath? =
      object.accessPath?.map (· ++ [property.text]) := by
  unfold access
  split <;> rfl

@[simp]
theorem accessPath?_ofPath (path : DottedPath) :
    (ofPath path).accessPath? = some path.segments := by
  apply ofPath_induction (motive := fun words object => object.accessPath? = some words) path
  · rfl
  · intro words object segment given
    simp [accessPath?, given]

/-- The first argument of a call, if it is a text. -/
def calledName? : Expr → Option String
  | call _ _ (.expr (string _ name) :: _) => some name
  | _ => none

/-- The words that lead to what is called. -/
def calleePath? : Expr → Option (List String)
  | call _ callee _ => callee.accessPath?
  | _ => none

end Expr

/-- The words of a text between its colons. -/
def colonPieces (text : String) : List String :=
  (Text.pieces (· == ':') text.toList).map String.ofList

theorem colonPieces_of_notMem {word : String} (plain : ':' ∉ word.toList) :
    colonPieces word = [word] := by
  have solid : ∀ c ∈ word.toList, (c == ':') = false := by
    intro c membership
    simp only [beq_eq_false_iff_ne]
    rintro rfl
    exact plain membership
  rw [colonPieces, Text.pieces_eq, List.splitOnP_eq_singleton solid]
  simp

theorem colonPieces_append {word : String} (plain : ':' ∉ word.toList) (front : String) :
    colonPieces (front ++ ":" ++ word) = colonPieces front ++ [word] := by
  have joined : (front ++ ":" ++ word).toList = front.toList ++ ':' :: word.toList := by simp
  rw [← colonPieces_of_notMem plain, colonPieces, joined, Text.pieces_eq,
    List.splitOnP_append_cons _ _ (by rfl), List.map_append]
  simp only [colonPieces, Text.pieces_eq]

namespace TagObject

/-- The words of the object, its root first. -/
def segments : TagObject → List String
  | reference name => [name.text]
  | this _ => ["this"]
  | member _ object property => object.segments ++ [property.text]

@[simp]
theorem accessPath?_toExpr (object : TagObject) :
    object.toExpr.accessPath? = some object.segments := by
  induction object with
  | member span object property inductionHypothesis => simp [toExpr, segments, inductionHypothesis]
  | _ => rfl

theorem colonPieces_label (object : TagObject)
    (plain : ∀ word ∈ object.segments, ':' ∉ word.toList) :
    colonPieces object.label = object.segments := by
  induction object with
  | reference name => exact colonPieces_of_notMem (plain name.text (by simp [segments]))
  | this span => exact colonPieces_of_notMem (plain "this" (by simp [segments]))
  | member span object property inductionHypothesis =>
      rw [segments, List.forall_mem_append] at plain
      rw [label, colonPieces_append (plain.2 _ (by simp)), inductionHypothesis plain.1, segments]

end TagObject

namespace Tag

/-- The words of the tag. -/
def segments : Tag → List String
  | intrinsic name => [name.text]
  | reference name => [name.text]
  | namespaced _ space name => [space.text, name.text]
  | member _ object property => object.segments ++ [property.text]
  | this _ => ["this"]

/-- The words of the tag are without colons. -/
def Colonless (tag : Tag) : Prop := ∀ word ∈ tag.segments, ':' ∉ word.toList

def IsNamespaced : Tag → Prop
  | namespaced .. => True
  | _ => False

def IsMember : Tag → Prop
  | member .. => True
  | _ => False

theorem IsMember.separate {tag : Tag} (member : tag.IsMember) : ¬ tag.IsNamespaced := by
  cases tag with
  | member span object property => exact id
  | _ => cases member

theorem colonPieces_label {tag : Tag} (separate : ¬ tag.IsNamespaced) (colonless : tag.Colonless) :
    colonPieces tag.label = tag.segments := by
  cases tag with
  | intrinsic name => exact colonPieces_of_notMem (colonless name.text (by simp [segments]))
  | reference name => exact colonPieces_of_notMem (colonless name.text (by simp [segments]))
  | namespaced span space name => exact absurd trivial separate
  | member span object property =>
      exact (TagObject.member span object property).colonPieces_label colonless
  | this span => exact (TagObject.this span).colonPieces_label colonless

end Tag

namespace Markup

/-- The tag of an element. -/
def tag? : Markup → Option Tag
  | element _ _ tag _ _ => some tag
  | fragment _ _ => none

/-- The markup is an element whose tag accesses one word after another, none with a colon. -/
def HasMemberTag (words : List String) (content : Markup) : Prop :=
  ∃ tag, content.tag? = some tag ∧ tag.IsMember ∧ tag.Colonless ∧ tag.segments = words

end Markup

namespace Program

variable (options : Options) (program : Program)

/-- Where known tags are looked up, unless the header says otherwise. -/
def domTarget : DottedPath := (Header.annotations program).jsx.getD options.dom

/-- Where other tags are looked up, if anywhere. -/
def componentsTarget? : Option DottedPath :=
  (Header.annotations program).components.or options.components

/-- The target that a plain tag is looked up on, unless it stays bare. -/
def lookupTarget (name : String) : DottedPath :=
  if isKnownTag name then program.domTarget options
  else (program.componentsTarget? options).getD (program.domTarget options)

/-- The words that lead to what a tag with a name denotes. -/
def tagPath : Tag → String → List String
  | .intrinsic _, name | .reference _, name =>
      if isKnownTag name = false ∧ isIdentifierName name = true ∧
          program.componentsTarget? options = none then [name]
      else (program.lookupTarget options name).segments ++ [name]
  | _, name => colonPieces name

/-- What markup becomes in a mode. -/
def lowering (mode : Mode) (content : Markup) : Expr :=
  (content.lower (program.targets { options with mode })).value

theorem accessPath?_resolvePlain (name : Name) (bound : Bool) :
    ((program.targets { options with mode := .targeted }).resolvePlain name bound).accessPath? =
      some (program.tagPath options (.intrinsic name) name.text) := by
  have dom : (program.targets { options with mode := .targeted }).dom =
    .ofPath (program.domTarget options) := rfl
  have components : (program.targets { options with mode := .targeted }).components =
    (program.componentsTarget? options).map .ofPath := rfl
  unfold Targets.resolvePlain tagPath lookupTarget
  rw [dom, components]
  by_cases known : isKnownTag name.text = true
  · simp [known]
  · cases given : program.componentsTarget? options with
    | some target => simp [known]
    | none =>
        by_cases valid : isIdentifierName name.text = true
        · simp [known, valid, Expr.accessPath?]
        · simp [known, valid]

theorem accessPath?_resolve {tag : Tag} (separate : ¬ tag.IsNamespaced)
    (colonless : tag.Colonless) :
    ((program.targets { options with mode := .targeted }).resolve tag).value.accessPath? =
      some (program.tagPath options tag tag.label) := by
  have pieces := Tag.colonPieces_label separate colonless
  cases tag with
  | intrinsic name => exact accessPath?_resolvePlain options program name false
  | reference name => exact accessPath?_resolvePlain options program name true
  | namespaced span space name => exact absurd trivial separate
  | member span object property =>
      rw [tagPath, pieces]
      · simp [Targets.resolve, Tag.segments]
      · simp
      · simp
  | this span =>
      rw [tagPath, pieces]
      · rfl
      · simp
      · simp

variable {content : Markup} {tag : Tag}

theorem calledName?_lowering (tagged : content.tag? = some tag) {mode : Mode}
    (untargeted : mode ≠ .targeted) :
    (program.lowering options mode content).calledName? = some tag.label := by
  cases content with
  | fragment span children => cases tagged
  | element span opening given attributes children =>
      cases tagged
      cases mode with
      | targeted => exact absurd rfl untargeted
      | _ => rfl

theorem calleePath?_lowering (tagged : content.tag? = some tag) (separate : ¬ tag.IsNamespaced)
    (colonless : tag.Colonless) :
    (program.lowering options .targeted content).calleePath? =
      some (program.tagPath options tag tag.label) := by
  cases content with
  | fragment span children => cases tagged
  | element span opening given attributes children =>
      cases tagged
      exact program.accessPath?_resolve options separate colonless

theorem tagPath_of_isMember (member : tag.IsMember) (name : String) :
    program.tagPath options tag name = colonPieces name := by
  cases tag with
  | member span object property => rfl
  | _ => cases member

theorem words_of_hasMemberTag {words : List String} (tagged : content.HasMemberTag words) :
    (∀ mode, mode ≠ .targeted →
      (program.lowering options mode content).calledName?.map colonPieces = some words) ∧
    (program.lowering options .targeted content).calleePath? = some words := by
  obtain ⟨tag, given, member, colonless, rfl⟩ := tagged
  have pieces := Tag.colonPieces_label member.separate colonless
  constructor
  · intro mode untargeted
    rw [calledName?_lowering options program given untargeted, Option.map_some, pieces]
  · rw [calleePath?_lowering options program given member.separate colonless,
      tagPath_of_isMember options program member, pieces]

end Program

/-- The name of a tag in the modes that pass one and the callee of the tag in targeted mode denote
the same. The words of a member tag or of `this` are the pieces of the name between its colons; a
plain tag stays bare, or its name is looked up on the target in force for it. So member tags of
different words have neither the same name nor the same callee, whatever their spans. -/
theorem tag_names_denote_callees (options : Options) (program : Program) :
    (∀ content tag, content.tag? = some tag → ¬ tag.IsNamespaced → tag.Colonless →
      ∃ name,
        (∀ mode, mode ≠ .targeted →
          (program.lowering options mode content).calledName? = some name) ∧
        (program.lowering options .targeted content).calleePath? =
          some (program.tagPath options tag name)) ∧
    (∀ first second words others, first.HasMemberTag words → second.HasMemberTag others →
      words ≠ others →
      (∀ mode, mode ≠ .targeted →
        (program.lowering options mode first).calledName? ≠
          (program.lowering options mode second).calledName?) ∧
      (program.lowering options .targeted first).calleePath? ≠
        (program.lowering options .targeted second).calleePath?) := by
  constructor
  · intro content tag tagged separate colonless
    refine ⟨tag.label, ?_, program.calleePath?_lowering options tagged separate colonless⟩
    exact fun mode untargeted => program.calledName?_lowering options tagged untargeted
  · intro first second words others tagged othersTagged differ
    obtain ⟨name, path⟩ := program.words_of_hasMemberTag options tagged
    obtain ⟨otherName, otherPath⟩ := program.words_of_hasMemberTag options othersTagged
    constructor
    · intro mode untargeted same
      have equal := name mode untargeted
      rw [same, otherName mode untargeted] at equal
      exact differ (Option.some.inj equal).symm
    · rw [path, otherPath]
      simpa using differ

/-- The element `<this.a.b-c/>`. -/
def Markup.dashedMember : Markup :=
  .element ⟨0, 13⟩ ⟨0, 13⟩
    (.member ⟨1, 11⟩ (.member ⟨1, 7⟩ (.this ⟨1, 5⟩) ⟨⟨6, 7⟩, "a"⟩) ⟨⟨8, 11⟩, "b-c"⟩) [] []

/-- The element `<this.a/>`. -/
def Markup.shortMember : Markup :=
  .element ⟨0, 9⟩ ⟨0, 9⟩ (.member ⟨1, 7⟩ (.this ⟨1, 5⟩) ⟨⟨6, 7⟩, "a"⟩) [] []

/-- The program `<this.a.b-c/>;<this.a/>`. -/
def Program.memberTags : Program where
  source := "<this.a.b-c/>;<this.a/>"
  comments := []
  directives := []
  body :=
    [.expression ⟨0, 14⟩ (.markup .dashedMember), .expression ⟨14, 23⟩ (.markup .shortMember)]

theorem tag_names_denote_callees_dashed_member :
    Markup.dashedMember.HasMemberTag ["this", "a", "b-c"] ∧
    Markup.shortMember.HasMemberTag ["this", "a"] ∧
    (Program.memberTags.lowering .standard .generic .dashedMember).calledName? =
      some "this:a:b-c" ∧
    (Program.memberTags.lowering .standard .targeted .dashedMember).calleePath? =
      some ["this", "a", "b-c"] ∧
    (Program.memberTags.lowering .standard .targeted .dashedMember).calleePath? ≠
      (Program.memberTags.lowering .standard .targeted .shortMember).calleePath? := by
  have dashed : Markup.dashedMember.HasMemberTag ["this", "a", "b-c"] :=
    ⟨_, rfl, trivial, by simp [Tag.Colonless, Tag.segments, TagObject.segments], rfl⟩
  have short : Markup.shortMember.HasMemberTag ["this", "a"] :=
    ⟨_, rfl, trivial, by simp [Tag.Colonless, Tag.segments, TagObject.segments], rfl⟩
  obtain ⟨denote, differ⟩ := tag_names_denote_callees .standard .memberTags
  obtain ⟨name, named, path⟩ := denote .dashedMember _ rfl id
    (by simp [Tag.Colonless, Tag.segments, TagObject.segments])
  have spelled : some "this:a:b-c" = some name := named .generic (by decide)
  cases spelled
  refine ⟨dashed, short, rfl, path.trans (by decide), ?_⟩
  exact (differ _ _ _ _ dashed short (by decide)).2

end JsxLowering
