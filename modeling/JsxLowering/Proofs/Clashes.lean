import JsxLowering.Proofs.Naming

set_option autoImplicit false

/-!
Attribute names that clash when properties are grouped. A name is cut at its first colon or else at
its first dash, and a name with neither gets a namespace that can also be written down. So a colon
and a dash in the same place make no difference, and neither does the name of the default namespace
in front of a plain name. These are all names that fall together. Any two others lead to different
places in the grouped properties, where each attribute has a place of its own.
-/

namespace JsxLowering

/-- Two different names with the same namespace and the same local part. -/
inductive Clashes : String → String → Prop where
  | separator (space rest : String) (colonless : ':' ∉ space.toList)
      (dashless : '-' ∉ space.toList) (plain : ':' ∉ rest.toList) :
      Clashes (space ++ ":" ++ rest) (space ++ "-" ++ rest)
  | colon (name : String) (colonless : ':' ∉ name.toList) (dashless : '-' ∉ name.toList) :
      Clashes ("#default:" ++ name) name
  | dash (name : String) (colonless : ':' ∉ name.toList) (dashless : '-' ∉ name.toList) :
      Clashes ("#default-" ++ name) name

theorem splitFirst_append {separator : Char} {front : List Char} (first : separator ∉ front)
    (back : List Char) :
    splitFirst separator (front ++ separator :: back) = some (front, back) := by
  induction front with
  | nil => simp [splitFirst]
  | cons c front inductionHypothesis =>
      rw [List.mem_cons, not_or] at first
      rw [List.cons_append, splitFirst, if_neg (Ne.symm first.1), inductionHypothesis first.2]
      rfl

theorem NameParts.splitNamespace_eq {name : String} {parts : String × String}
    (given : NameParts name parts) : splitNamespace name = parts := by
  unfold splitNamespace
  cases given with
  | colon space rest first => simp [splitFirst_append first]
  | dash space rest colonless first =>
      rw [splitFirst_eq_none_iff.mpr colonless]
      simp [splitFirst_append first]
  | whole name colonless dashless =>
      rw [splitFirst_eq_none_iff.mpr colonless, splitFirst_eq_none_iff.mpr dashless]
      rfl

theorem NameParts.cases {name space rest : String} (given : NameParts name (space, rest)) :
    name = space ++ ":" ++ rest ∧ ':' ∉ space.toList ∨
    name = space ++ "-" ++ rest ∧ ':' ∉ space.toList ∧ '-' ∉ space.toList ∧ ':' ∉ rest.toList ∨
    space = "#default" ∧ name = rest ∧ ':' ∉ rest.toList ∧ '-' ∉ rest.toList := by
  cases given with
  | colon _ _ first => exact .inl ⟨rfl, first⟩
  | dash _ _ colonless first =>
      simp only [String.toList_append, List.mem_append, not_or] at colonless
      exact .inr (.inl ⟨rfl, colonless.1.1, first, colonless.2⟩)
  | whole _ colonless dashless => exact .inr (.inr ⟨rfl, rfl, colonless, dashless⟩)

theorem Clashes.splitNamespace_eq {first second : String} (clash : Clashes first second) :
    splitNamespace first = splitNamespace second := by
  cases clash with
  | separator space rest colonless dashless plain =>
      have without : ':' ∉ (space ++ "-" ++ rest).toList := by simp [colonless, plain]
      rw [(NameParts.colon space rest colonless).splitNamespace_eq,
        (NameParts.dash space rest without dashless).splitNamespace_eq]
  | colon name colonless dashless =>
      have written : NameParts ("#default:" ++ second) ("#default", second) :=
        .colon "#default" second (by decide)
      rw [written.splitNamespace_eq, (NameParts.whole second colonless dashless).splitNamespace_eq]
  | dash name colonless dashless =>
      have without : ':' ∉ ("#default" ++ "-" ++ second).toList := by simp [colonless]
      have written : NameParts ("#default-" ++ second) ("#default", second) :=
        .dash "#default" second without (by decide)
      rw [written.splitNamespace_eq, (NameParts.whole second colonless dashless).splitNamespace_eq]

theorem splitNamespace_eq_iff_clashes {first second : String} (different : first ≠ second) :
    splitNamespace first = splitNamespace second ↔ Clashes first second ∨ Clashes second first := by
  constructor
  · intro same
    have one := nameParts_splitNamespace first
    have other := nameParts_splitNamespace second
    rw [← same] at other
    -- Names of the same kind are made from their parts alike, so that they are of two kinds.
    generalize splitNamespace first = parts at one other
    obtain ⟨space, rest⟩ := parts
    rcases one.cases with ⟨rfl, _⟩ | ⟨rfl, colonless, dashless, plain⟩ | ⟨unnamed, rfl, bare⟩
    · rcases other.cases with ⟨rfl, _⟩ | ⟨rfl, colonless, dashless, plain⟩ | ⟨rfl, rfl, bare⟩
      · exact absurd rfl different
      · exact .inl (.separator space rest colonless dashless plain)
      · exact .inl (.colon second bare.1 bare.2)
    · rcases other.cases with ⟨rfl, _⟩ | ⟨rfl, _⟩ | ⟨rfl, rfl, bare⟩
      · exact .inr (.separator space rest colonless dashless plain)
      · exact absurd rfl different
      · exact .inl (.dash second bare.1 bare.2)
    · rcases other.cases with ⟨rfl, _⟩ | ⟨rfl, _⟩ | ⟨_, rfl, _⟩
      · cases unnamed
        exact .inr (.colon first bare.1 bare.2)
      · cases unnamed
        exact .inr (.dash first bare.1 bare.2)
      · exact absurd rfl different
  · rintro (clash | clash)
    · exact clash.splitNamespace_eq
    · exact clash.splitNamespace_eq.symm

namespace Word

def text : Word → String
  | bare text => text
  | quoted text => text

@[simp]
theorem text_ofText (text : String) : (ofText text).text = text := by
  unfold ofText
  split <;> rfl

end Word

/-- The key of a property, bare or quoted, and its value. -/
def Property.pair? : Property → Option (String × Expr)
  | .keyed _ key value _ false => key.word?.map fun word => (word.text, value)
  | _ => none

@[simp]
theorem pair?_plainProperty (span : Span) (name : String) (value : Expr) :
    (plainProperty span name value).pair? = some (name, value) := by
  simp [plainProperty, Property.pair?, word?_propertyKey]

namespace Expr

/-- The keys and values of an object. -/
def entries : Expr → List (String × Expr)
  | object _ properties => properties.filterMap Property.pair?
  | _ => []

/-- What the objects in an object hold, each with the two keys that lead to it. -/
def cells (value : Expr) : List ((String × String) × Expr) :=
  value.entries.flatMap fun (group, inner) =>
    inner.entries.map fun (key, held) => ((group, key), held)

@[simp]
theorem entries_objectOrNull (span : Span) (properties : List Property) :
    (objectOrNull span properties).entries = properties.filterMap Property.pair? := by
  cases properties <;> rfl

end Expr

/-- Where an entry is held among grouped properties, and its value. A spread has no such place. -/
def Entry.cell? : Entry → Option ((String × String) × Expr)
  | property _ name value => some (splitNamespace name, value)
  | spread _ _ => none

/-- The namespace and the local part of an attribute's name, and its value. -/
def Attribute.cell? (targets : Targets) : Attribute → Option ((String × String) × Expr)
  | .named owner name value => some (splitNamespace name.text, (value.lower targets owner).value)
  | .spread _ _ => none

theorem Entry.cells_lowerAttributes (targets : Targets) (attributes : List Attribute) :
    (lowerAttributes targets attributes).value.filterMap cell? =
      attributes.filterMap (Attribute.cell? targets) := by
  rw [lowerAttributes_eq, Report.value_mapM, List.filterMap_map]
  apply List.filterMap_congr
  intro given _
  cases given <;> rfl

namespace Group

def cells (group : Group) : List ((String × String) × Expr) :=
  (group.properties.filterMap Property.pair?).map fun (key, held) => ((group.space, key), held)

theorem cells_ofEntry (entry : Entry) : (ofEntry entry).cells = entry.cell?.toList := by
  cases entry with
  | property span name value =>
      simp [ofEntry, cells, Entry.inGroup, Entry.space, Entry.name?, spaceOf, Entry.cell?]
  | spread span argument => rfl

theorem cells_extend {entry : Entry} {group : Group} (same : group.space = entry.space) :
    (group.extend entry).cells = group.cells ++ entry.cell?.toList := by
  have last : ([entry.inGroup].filterMap Property.pair?).map
      (fun (key, held) => ((group.space, key), held)) = entry.cell?.toList := by
    rw [same, ← cells_ofEntry]
    rfl
  rw [← last, cells, extend, List.filterMap_append, List.map_append]
  rfl

theorem cells_insert (entry : Entry) (groups : List Group) :
    ((insert entry groups).flatMap cells).Perm (groups.flatMap cells ++ entry.cell?.toList) := by
  induction groups with
  | nil =>
      rw [← cells_ofEntry]
      simp [insert, ofEntry]
  | cons group rest inductionHypothesis =>
      rw [insert]
      split
      next same =>
        change (group.extend entry :: rest).flatMap cells |>.Perm _
        rw [List.flatMap_cons, List.flatMap_cons, cells_extend same, List.append_assoc,
          List.append_assoc]
        exact List.perm_append_comm.append_left group.cells
      next _ =>
        rw [List.flatMap_cons, List.flatMap_cons, List.append_assoc]
        exact inductionHypothesis.append_left group.cells

/-- Every entry but a spread has one cell, and there are no others. -/
theorem cells_ofEntries (entries : List Entry) :
    ((ofEntries entries).flatMap cells).Perm (entries.filterMap Entry.cell?) := by
  induction entries using List.reverseRecOn with
  | nil => exact .nil
  | append_singleton entries entry inductionHypothesis =>
      rw [ofEntries, List.foldl_append, List.filterMap_append]
      refine (cells_insert entry (ofEntries entries)).trans ?_
      have last : [entry].filterMap Entry.cell? = entry.cell?.toList := by
        cases given : entry.cell? <;> simp [given]
      rw [last]
      exact inductionHypothesis.append_right _

end Group

theorem entries_groupedProps (span : Span) (entries : List Entry) :
    (groupedProps span entries).entries =
      (Group.ofEntries entries).map fun group =>
        (group.space, objectOrNull group.span group.properties) := by
  rw [groupedProps, Expr.entries_objectOrNull, List.filterMap_map]
  simp [Function.comp_def, Group.toProperty]

theorem cells_groupedProps (span : Span) (entries : List Entry) :
    (groupedProps span entries).cells.Perm (entries.filterMap Entry.cell?) := by
  refine List.Perm.trans (.of_eq ?_) (Group.cells_ofEntries entries)
  rw [Expr.cells, entries_groupedProps, List.flatMap_map]
  simp only [Expr.entries_objectOrNull]
  rfl

/-- Properties hold attributes by namespace and local part. There is one object for a namespace and
one cell for an attribute, and attributes whose names differ without clashing have cells apart. -/
structure StoresAttributes (targets : Targets) (attributes : List Attribute) (properties : Expr) :
    Prop where
  groups : (properties.entries.map Prod.fst).Nodup
  cells : properties.cells.Perm (attributes.filterMap (Attribute.cell? targets))
  apart : ∀ first ∈ attributes, ∀ second ∈ attributes,
    ∀ name ∈ first.name?, ∀ other ∈ second.name?, name ≠ other →
    ¬ Clashes name other → ¬ Clashes other name →
    ∃ cell ∈ first.cell? targets, ∃ another ∈ second.cell? targets,
      cell ∈ properties.cells ∧ another ∈ properties.cells ∧ cell.1 ≠ another.1

theorem Attribute.exists_cell {given : Attribute} {name : String} (named : name ∈ given.name?)
    (targets : Targets) : ∃ value, given.cell? targets = some (splitNamespace name, value) := by
  cases given with
  | named owner word value =>
      cases named
      exact ⟨_, rfl⟩
  | spread span argument => cases named

theorem storesAttributes_groupedProps (targets : Targets) (span : Span)
    (attributes : List Attribute) :
    StoresAttributes targets attributes
      (groupedProps span (lowerAttributes targets attributes).value) := by
  have cells := cells_groupedProps span (lowerAttributes targets attributes).value
  rw [Entry.cells_lowerAttributes] at cells
  refine ⟨?_, cells, ?_⟩
  · rw [entries_groupedProps, List.map_map]
    exact (Group.partition_ofEntries _).distinct
  · intro first inFirst second inSecond name named other otherNamed different forward backward
    obtain ⟨value, cell⟩ := Attribute.exists_cell named targets
    obtain ⟨held, another⟩ := Attribute.exists_cell otherNamed targets
    refine ⟨_, cell, _, another, ?_, ?_, ?_⟩
    · exact cells.mem_iff.mpr (List.mem_filterMap.mpr ⟨first, inFirst, cell⟩)
    · exact cells.mem_iff.mpr (List.mem_filterMap.mpr ⟨second, inSecond, another⟩)
    · rw [Ne, splitNamespace_eq_iff_clashes different, not_or]
      exact ⟨forward, backward⟩

end JsxLowering
