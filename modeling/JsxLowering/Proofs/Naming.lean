import JsxLowering.Proofs.Making

set_option autoImplicit false

/-!
How names are written. A name stands bare, as an identifier, after a dot or as a plain key, or it
stands in quotes, as a key or between brackets. Only identifier names can stand bare.

Lowering keeps the nodes outside of markup and makes further ones. Of these, the ones that hold a
name write the text of a tag, of a path or of an attribute, bare if it is an identifier name and in
quotes if not. So the words of a program are fit for their places afterwards if they were before.
-/

namespace JsxLowering

/-- A name in the form in which it is written. -/
inductive Word where
  | bare (text : String)
  | quoted (text : String)
  deriving DecidableEq

namespace Word

/-- The word for a text. -/
def ofText (text : String) : Word :=
  if isIdentifierName text then bare text else quoted text

/-- Whether the word can stand in its form. -/
def isFit : Word → Bool
  | bare text => isIdentifierName text
  | quoted _ => true

theorem ofText_of_isIdentifierName {text : String} (valid : isIdentifierName text = true) :
    ofText text = bare text :=
  if_pos valid

theorem isFit_ofText (text : String) : (ofText text).isFit = true := by
  unfold ofText
  split
  next valid => exact valid
  next _ => rfl

theorem exists_of_concat {words? : Option (List Word)} {word : Word} {texts : List String}
    (spelled : words?.map (· ++ [word]) = some (texts.map ofText)) :
    ∃ front last, texts = front ++ [last] ∧ words? = some (front.map ofText) ∧
      ofText last = word := by
  obtain ⟨words, rfl, joined⟩ := Option.map_eq_some_iff.mp spelled
  obtain ⟨front, back, rfl, rfl, single⟩ := List.append_eq_map_iff.mp joined
  obtain ⟨last, rfl, rfl⟩ := List.map_eq_singleton_iff.mp single
  exact ⟨front, last, rfl, rfl, rfl⟩

end Word

/-- Whether the name is one that only the members of a class can use. -/
def Name.isPrivate (name : Name) : Bool := name.text.toList.head? == some '#'

theorem isPrivate_of_isIdentifierName {name : Name}
    (valid : isIdentifierName name.text = true) : name.isPrivate = false := by
  unfold isIdentifierName at valid
  unfold Name.isPrivate
  cases given : name.text.toList with
  | nil => rfl
  | cons first rest =>
      rw [given, Bool.and_eq_true] at valid
      rw [List.head?_cons, beq_eq_false_iff_ne]
      intro same
      cases same
      exact absurd valid.1 (by decide +kernel)

def Key.word? : Key → Option Word
  | .name given => some (.bare given.text)
  | .expr (.string _ text) => some (.quoted text)
  | .expr _ => none

def Property.word? : Property → Option Word
  | .keyed _ key _ _ false => key.word?
  | _ => none

/-- What a member tag starts from, if that is a name. -/
def TagObject.root? : TagObject → Option Name
  | reference name => some name
  | this _ => none
  | member _ object _ => object.root?

namespace Node

/-- The word that a node is written with. An element is written with the root of its member tag;
other names in markup are no words yet. -/
def word? : Node → Option Word
  | expr (.identifier _ name _) => some (.bare name)
  | expr (.member _ _ name) => if name.isPrivate then none else some (.bare name.text)
  | expr (.index _ _ (.string _ text)) => some (.quoted text)
  | key given => given.word?
  | markup (.element _ _ (.member _ object _) _ _) => object.root?.map fun root => .bare root.text
  | _ => none

/-- The word of the node can stand in its form. -/
def WellNamed (node : Node) : Prop := ∀ word ∈ node.word?, word.isFit = true

/-- The node is the word for a text. -/
def Writes (text : String) (node : Node) : Prop := node.word? = some (.ofText text)

theorem word?_of_isFrame {node : Node} (frame : node.isFrame = true) : node.word? = none := by
  cases node with
  | expr value =>
      cases value with
      | identifier span name bound => cases frame
      | member span object property => cases frame
      | index span object key => cases frame
      | _ => rfl
  | item value => rfl
  | property value => rfl
  | _ => cases frame

theorem word?_head_eq_bare_iff (node : Node) (text : String) :
    node.head.word? = some (.bare text) ↔ node.word? = some (.bare text) := by
  -- A head is without the strings below it, but these make quoted words only.
  cases node with
  | expr value =>
      cases value with
      | index span object key => cases key <;> simp [head, Expr.head, Expr.cut, word?]
      | _ => rfl
  | key given =>
      cases given with
      | name word => rfl
      | expr value => cases value <;> simp [head, Key.head, Expr.cut, word?, Key.word?]
  | markup content =>
      cases content with
      | element span opening tag attributes children => cases tag <;> rfl
      | fragment span children => rfl
  | _ => rfl

theorem wellNamed_of_head {node after : Node} (same : after.head = node.head)
    (named : node.WellNamed) : after.WellNamed := by
  intro word given
  cases word with
  | quoted text => rfl
  | bare text =>
      apply named
      rw [Option.mem_def, ← word?_head_eq_bare_iff, ← same, word?_head_eq_bare_iff]
      exact given

end Node

def Program.WellNamed (program : Program) : Prop := ∀ node ∈ program.nodes, node.WellNamed

instance (node : Node) : Decidable node.WellNamed :=
  inferInstanceAs (Decidable (∀ word ∈ node.word?, word.isFit = true))

instance (program : Program) : Decidable program.WellNamed :=
  inferInstanceAs (Decidable (∀ node ∈ program.nodes, node.WellNamed))

namespace Expr

/-- The words of a member access, from its root on. As a root, `this` counts as a word. -/
def accessWords? : Expr → Option (List Word)
  | identifier _ name _ => some [.bare name]
  | this _ => some [.bare "this"]
  | member _ base property => base.accessWords?.map (· ++ [.bare property.text])
  | index _ base (string _ key) => base.accessWords?.map (· ++ [.quoted key])
  | _ => none

@[simp]
theorem accessWords?_access (span : Span) (object : Expr) (property : Name) :
    (access span object property).accessWords? =
      object.accessWords?.map (· ++ [.ofText property.text]) := by
  unfold access Word.ofText
  split <;> rfl

@[simp]
theorem accessWords?_ofPath (path : DottedPath) :
    (ofPath path).accessWords? = some (path.segments.map .ofText) := by
  have bare : (ofPath path).accessWords? = some (path.segments.map .bare) := by
    apply ofPath_induction
      (motive := fun words object => object.accessWords? = some (words.map .bare)) path
    · rfl
    · intro words object segment given
      simp [accessWords?, given]
  have valid : path.segments.map Word.ofText = path.segments.map .bare :=
    List.map_congr_left fun segment membership =>
      Word.ofText_of_isIdentifierName (path.valid segment membership)
  rw [bare, valid]

end Expr

theorem TagObject.accessWords?_toExpr {object : TagObject}
    (valid : ∀ root ∈ object.root?, isIdentifierName root.text = true) :
    object.toExpr.accessWords? = some (object.segments.map .ofText) := by
  induction object with
  | reference name =>
      rw [segments, List.map_singleton, Word.ofText_of_isIdentifierName (valid name rfl)]
      rfl
  | this span => rfl
  | member span object property inductionHypothesis =>
      rw [toExpr, Expr.accessWords?_access, inductionHypothesis valid]
      simp [segments]

namespace Program

variable (options : Options) (program : Program)

/-- The texts that lead to what a tag is resolved to. -/
def resolvedTexts : Tag → List String
  | .intrinsic name => program.tagPath options (.intrinsic name) name.text
  | .reference name => program.tagPath options (.reference name) name.text
  | tag => tag.segments

/-- The texts that lead to what is called for a tag. -/
def calleeTexts (tag : Tag) : List String :=
  if options.mode = .targeted then program.resolvedTexts options tag else options.tagCall.segments

theorem accessWords?_resolvePlain (targeted : options.mode = .targeted) (name : Name)
    (bound : Bool) :
    ((program.targets options).resolvePlain name bound).accessWords? =
      some ((program.tagPath options (.intrinsic name) name.text).map .ofText) := by
  unfold Targets.resolvePlain tagPath lookupTarget
  rw [dom_targets targeted, components_targets targeted]
  by_cases known : isKnownTag name.text = true
  · simp [known]
  · cases given : program.componentsTarget? options with
    | some target => simp [known]
    | none =>
        by_cases valid : isIdentifierName name.text = true
        · simp [known, valid, Expr.accessWords?, Word.ofText]
        · simp [known, valid]

theorem accessWords?_callee {tag : Tag} {span opening : Span} {attributes : List Attribute}
    {children : List Child}
    (named : (Node.markup (.element span opening tag attributes children)).WellNamed)
    (separate : options.mode = .targeted → ¬ tag.IsNamespaced) :
    ((program.targets options).callHead tag).value.callee.accessWords? =
      some ((program.calleeTexts options tag).map .ofText) := by
  by_cases targeted : options.mode = .targeted
  · rw [callee_callHead_targeted targeted, calleeTexts, if_pos targeted]
    cases tag with
    | intrinsic name => exact program.accessWords?_resolvePlain options targeted name false
    | reference name => exact program.accessWords?_resolvePlain options targeted name true
    | namespaced span space name => exact absurd trivial (separate targeted)
    | member span object property =>
        have valid : ∀ root ∈ object.root?, isIdentifierName root.text = true := by
          intro root given
          exact named (.bare root.text) (Option.mem_map_of_mem _ given)
        simp [Targets.resolve, TagObject.accessWords?_toExpr valid, resolvedTexts, Tag.segments]
    | this span => rfl
  · have head : ((program.targets options).callHead tag).value.callee =
        .ofPath options.tagCall := by
      unfold Targets.callHead
      cases mode : options.mode with
      | targeted => exact absurd mode targeted
      | _ => simp [mode, targets, Targets.ofOptions]
    rw [head, calleeTexts, if_neg targeted, Expr.accessWords?_ofPath]

end Program

/-- The keys of an object, with nothing for a property that has none. -/
def Expr.keys : Expr → List (Option Word)
  | object _ properties => properties.map Property.word?
  | _ => []

/-- The key of a property, and the keys of the object that it holds. -/
def Property.group : Property → Option Word × List (Option Word)
  | .keyed _ key value _ false => (key.word?, value.keys)
  | _ => (none, [])

def Expr.groups : Expr → List (Option Word × List (Option Word))
  | object _ properties => properties.map Property.group
  | _ => []

theorem word?_propertyKey (name : String) (span : Span) :
    (propertyKey name span).word? = some (.ofText name) := by
  unfold propertyKey Word.ofText
  split <;> rfl

theorem keys_objectOrNull (span : Span) (properties : List Property) :
    (objectOrNull span properties).keys = properties.map Property.word? := by
  cases properties <;> rfl

theorem groups_objectOrNull (span : Span) (properties : List Property) :
    (objectOrNull span properties).groups = properties.map Property.group := by
  cases properties <;> rfl

namespace Entry

theorem word?_flat (entry : Entry) : entry.flat.word? = entry.name?.map .ofText := by
  cases entry with
  | property span name value => exact word?_propertyKey name span
  | spread span argument => rfl

theorem word?_inGroup (entry : Entry) :
    entry.inGroup.word? = entry.name?.map fun name => .ofText (splitNamespace name).2 := by
  cases entry with
  | property span name value => exact word?_propertyKey _ span
  | spread span argument => rfl

end Entry

/-- The keys of grouped properties: one for each namespace, and below it the local names of the
attributes of the namespace in their order. -/
def groupedWords (names : List (Option String)) (space : String) :
    Option Word × List (Option Word) :=
  (some (.ofText space), (names.filter fun name? => spaceOf name? = space).map fun name? =>
    name?.map fun name => .ofText (splitNamespace name).2)

theorem keys_props {mode : Mode} (flat : mode ≠ .grouped) (span : Span) (entries : List Entry) :
    (props mode span entries).keys = (entries.map Entry.name?).map (Option.map .ofText) := by
  rw [props_of_ne_grouped flat, flatProps, keys_objectOrNull, List.map_map, List.map_map]
  exact List.map_congr_left fun entry _ => entry.word?_flat

theorem Group.group_toProperty {entries : List Entry} {group : Group}
    (holds : group.Holds entries) :
    group.toProperty.group = groupedWords (entries.map Entry.name?) group.space := by
  obtain ⟨first, rest, members, _, contents⟩ := holds
  have words : (objectOrNull group.span group.properties).keys =
      (Entry.ofSpace group.space entries).map fun entry => entry.inGroup.word? := by
    rw [keys_objectOrNull, contents, members, List.map_map]
    rfl
  rw [toProperty, plainProperty, Property.group, word?_propertyKey, words, groupedWords,
    List.filter_map, List.map_map, Entry.ofSpace]
  simp only [Function.comp_def, Entry.word?_inGroup]
  rfl

theorem groups_groupedProps (span : Span) (entries : List Entry) :
    ∃ spaces : List String, spaces.Nodup ∧
      (∀ space, space ∈ spaces ↔ space ∈ (entries.map Entry.name?).map spaceOf) ∧
      (groupedProps span entries).groups =
        spaces.map (groupedWords (entries.map Entry.name?)) := by
  have partition := Group.partition_ofEntries entries
  refine ⟨(Group.ofEntries entries).map Group.space, partition.distinct, ?_, ?_⟩
  · intro space
    rw [partition.spaces, List.map_map]
    rfl
  · rw [groupedProps, groups_objectOrNull, List.map_map, List.map_map]
    exact List.map_congr_left fun group membership =>
      Group.group_toProperty (partition.each group membership)

/-- The callee of a call spells some texts, and its properties the names of attributes. -/
structure SpellsNames (mode : Mode) (texts : List String) (names : List (Option String))
    (callee properties : Expr) : Prop where
  callee : callee.accessWords? = some (texts.map .ofText)
  keys : mode ≠ .grouped → properties.keys = names.map (Option.map .ofText)
  groups : mode = .grouped → ∃ spaces : List String, spaces.Nodup ∧
    (∀ space, space ∈ spaces ↔ space ∈ names.map spaceOf) ∧
    properties.groups = spaces.map (groupedWords names)

namespace Node

/-- The node is kept, or it is the word for a text that is supplied, or it holds no name. -/
inductive Founded (kept : Node → Prop) (supplied : String → Prop) (node : Node) : Prop where
  | frame (nameless : node.isFrame = true)
  | kept (before : kept node)
  | word (text : String) (given : supplied text) (written : node.Writes text)

theorem founded_of_accessWords {kept : Node → Prop} {supplied : String → Prop} {value : Expr}
    {texts : List String}
    (spelled : value.accessWords? = some (texts.map .ofText))
    (given : ∀ text ∈ texts, supplied text) :
    (expr value).Throughout (Founded kept supplied) := by
  -- The last text belongs to the outermost access, and those before it to the object.
  fun_induction Expr.accessWords? value generalizing texts with
  | case1 span name bound =>
      obtain ⟨text, rfl, written⟩ := List.map_eq_singleton_iff.mp (Option.some.inj spelled).symm
      refine throughout_iff.mpr ⟨.word text (given text (by simp)) ?_, ?_⟩
      · exact congrArg some written.symm
      · simp [Node.children, Expr.children]
  | case2 span => exact throughout_leaf (fun _ => .frame) rfl rfl
  | case3 span base name inductionHypothesis =>
      obtain ⟨front, last, rfl, before, written⟩ := Word.exists_of_concat spelled
      have valid : isIdentifierName name.text = true := by
        have fit := Word.isFit_ofText last
        rwa [written] at fit
      refine throughout_iff.mpr ⟨.word last (given last (by simp)) ?_, ?_⟩
      · rw [Writes, word?, isPrivate_of_isIdentifierName valid, written]
        rfl
      · intro part membership
        obtain rfl := List.mem_singleton.mp membership
        exact inductionHypothesis before fun text inside => given text (by simp [inside])
  | case4 span base place key inductionHypothesis =>
      obtain ⟨front, last, rfl, before, written⟩ := Word.exists_of_concat spelled
      refine throughout_iff.mpr ⟨.word last (given last (by simp)) ?_, ?_⟩
      · exact congrArg some written.symm
      · intro part membership
        rcases List.mem_pair.mp membership with rfl | rfl
        · exact inductionHypothesis before fun text inside => given text (by simp [inside])
        · exact throughout_leaf (fun _ => .frame) rfl rfl
  | case5 => cases spelled

end Node

namespace Program

variable (options : Options) (program : Program)

/-- There is an element in the program that needs a word for the text. -/
def Supplies (text : String) : Prop :=
  ∃ span opening tag attributes children,
    Node.markup (.element span opening tag attributes children) ∈ program.nodes ∧
    (text ∈ program.calleeTexts options tag ∨
      ∃ given ∈ attributes, text ∈ options.mode.keyTexts given.name?)

variable {options program}

theorem wellNamed_of_founded (named : program.WellNamed) {supplied : String → Prop} {node : Node}
    (founded : node.Founded (program.Keeps options) supplied) : node.WellNamed := by
  cases founded with
  | frame nameless =>
      intro word given
      rw [Node.word?_of_isFrame nameless] at given
      cases given
  | kept before =>
      obtain ⟨before, membership, plain, value⟩ := before
      obtain ⟨result, kept⟩ := Node.keeps (program.targets options) plain
      rw [kept.value, List.singleton_inj] at value
      exact Node.wellNamed_of_head (value ▸ kept.head) (named before membership)
  | word text given written =>
      intro word there
      rw [written] at there
      cases there
      exact Word.isFit_ofText text

variable {lowered : Lowered} (named : program.WellNamed)
  (accepted : (transform options program).outcome = .ok lowered)

include named accepted

theorem accessWords?_callee_of_accepted {span opening : Span} {tag : Tag}
    {attributes : List Attribute} {children : List Child}
    (membership : Node.markup (.element span opening tag attributes children) ∈ program.nodes) :
    ((program.targets options).callHead tag).value.callee.accessWords? =
      some ((program.calleeTexts options tag).map .ofText) := by
  apply accessWords?_callee options program (named _ membership)
  exact fun targeted => not_isNamespaced_of_accepted accepted targeted membership

theorem founded_of_accepted : ∀ node ∈ lowered.program.nodes,
    node.Founded (program.Keeps options) (program.Supplies options) := by
  refine forall_nodes_of_accepted accepted (fun _ => .frame) (fun _ => .kept) ?_
  intro span opening tag attributes children membership
  constructor
  · refine Node.founded_of_accessWords
      (accessWords?_callee_of_accepted named accepted membership) ?_
    exact fun text given => ⟨_, _, _, _, _, membership, .inl given⟩
  · intro given there text key place
    refine .word text ?_ (word?_propertyKey text place)
    exact ⟨_, _, _, _, _, membership, .inr ⟨given, there, key⟩⟩

theorem spellsNames_of_accepted {span opening : Span} {tag : Tag} {attributes : List Attribute}
    {children : List Child}
    (membership : Node.markup (.element span opening tag attributes children) ∈ program.nodes) :
    ∃ callee leading properties rest,
      Node.expr (.call span callee (leading ++ .expr properties :: rest)) ∈
          lowered.program.nodes ∧
        leading.length + 1 = options.mode.argumentCount ∧
        SpellsNames options.mode (program.calleeTexts options tag) (attributes.map Attribute.name?)
          callee properties := by
  refine ⟨_, _, _, _, lowered_mem_nodes accepted membership,
    (program.targets options).length_leading tag,
    accessWords?_callee_of_accepted named accepted membership, ?_, ?_⟩
  · intro flat
    rw [← Entry.names_lowerAttributes (program.targets options)]
    exact keys_props flat opening _
  · intro grouped
    rw [← Entry.names_lowerAttributes (program.targets options), mode_targets, grouped]
    exact groups_groupedProps opening _

end Program

/-- The element `<a.b-c data-x -y={f.g} {...r} title />`. -/
def Markup.dashedNames : Markup :=
  .element ⟨0, 38⟩ ⟨0, 38⟩ (.member ⟨1, 6⟩ (.reference ⟨⟨1, 2⟩, "a"⟩) ⟨⟨3, 6⟩, "b-c"⟩)
    [.named ⟨7, 13⟩ (.plain ⟨⟨7, 13⟩, "data-x"⟩) .bare,
      .named ⟨14, 22⟩ (.plain ⟨⟨14, 16⟩, "-y"⟩) (.braced ⟨17, 22⟩
        (.expr (.member ⟨18, 21⟩ (.identifier ⟨18, 19⟩ "f" true) ⟨⟨20, 21⟩, "g"⟩))),
      .spread ⟨23, 29⟩ (.identifier ⟨27, 28⟩ "r" true),
      .named ⟨30, 35⟩ (.plain ⟨⟨30, 35⟩, "title"⟩) .bare] []

def Program.dashedNames : Program where
  source := "<a.b-c data-x -y={f.g} {...r} title />"
  comments := []
  directives := []
  body := [.expression ⟨0, 38⟩ (.markup .dashedNames)]

end JsxLowering
