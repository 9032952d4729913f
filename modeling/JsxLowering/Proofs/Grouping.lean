import Mathlib.Data.List.Forall2
import Mathlib.Data.List.Induction
import JsxLowering.Lowering.Attribute

set_option autoImplicit false

/-!
Grouping the attributes of an element is a stable partition by namespace. The namespaces
stand in the order of their first entries, each once, and the object of a namespace holds
its entries in the order in which they were given, under their local names. One invariant
says so of the groups made from the entries so far, and every further entry keeps it: it
joins the group of its namespace, or it begins a group after all others.
-/

namespace JsxLowering

/-- A name with its namespace and its local part. The first colon parts them, or if there is none
the first dash. Nothing else is left out, so that either part may be empty. -/
inductive NameParts : String → String × String → Prop where
  | colon (space rest : String) (first : ':' ∉ space.toList) :
      NameParts (space ++ ":" ++ rest) (space, rest)
  | dash (space rest : String) (colonless : ':' ∉ (space ++ "-" ++ rest).toList)
      (first : '-' ∉ space.toList) : NameParts (space ++ "-" ++ rest) (space, rest)
  | whole (name : String) (colonless : ':' ∉ name.toList) (dashless : '-' ∉ name.toList) :
      NameParts name ("#default", name)

theorem splitFirst_eq_none_iff {separator : Char} {text : List Char} :
    splitFirst separator text = none ↔ separator ∉ text := by
  induction text with
  | nil => simp [splitFirst]
  | cons c rest inductionHypothesis =>
      by_cases same : c = separator
      · simp [splitFirst, same]
      · simp [splitFirst, same, inductionHypothesis, Ne.symm same]

theorem splitFirst_eq_some {separator : Char} {text : List Char} {cut : List Char × List Char}
    (found : splitFirst separator text = some cut) :
    text = cut.1 ++ separator :: cut.2 ∧ separator ∉ cut.1 := by
  induction text generalizing cut with
  | nil => cases found
  | cons c rest inductionHypothesis =>
      by_cases same : c = separator
      · rw [splitFirst, if_pos same] at found
        cases found
        simp [same]
      · rw [splitFirst, if_neg same] at found
        obtain ⟨inner, there, rfl⟩ := Option.map_eq_some_iff.mp found
        obtain ⟨joined, first⟩ := inductionHypothesis there
        simp [joined, first, Ne.symm same]

theorem nameParts_splitNamespace (name : String) : NameParts name (splitNamespace name) := by
  unfold splitNamespace
  split
  next cut found =>
    obtain ⟨joined, first⟩ := splitFirst_eq_some found
    have whole : name = String.ofList cut.1 ++ ":" ++ String.ofList cut.2 := by
      simp [← String.toList_inj, joined]
    nth_rewrite 1 [whole]
    exact .colon _ _ (by simpa using first)
  next colonless =>
    have without := splitFirst_eq_none_iff.mp colonless
    split
    next cut found =>
      obtain ⟨joined, first⟩ := splitFirst_eq_some found
      have whole : name = String.ofList cut.1 ++ "-" ++ String.ofList cut.2 := by
        simp [← String.toList_inj, joined]
      rw [whole] at without
      nth_rewrite 1 [whole]
      exact .dash _ _ without (by simpa using first)
    next dashless => exact .whole name without (splitFirst_eq_none_iff.mp dashless)

/-- The key spells a text at a span, as a bare word if the text is one and as a string if not. -/
inductive Key.Spells (span : Span) (text : String) : Key → Prop where
  | word (plain : isIdentifierName text = true) : Spells span text (.name ⟨span, text⟩)
  | string (other : isIdentifierName text = false) : Spells span text (.expr (.string span text))

theorem spells_propertyKey (name : String) (span : Span) :
    (propertyKey name span).Spells span name := by
  unfold propertyKey
  split
  next plain => exact .word plain
  next other => exact .string (by simpa using other)

/-- What an entry becomes in the object of its namespace. -/
inductive Entry.Placed : Entry → Property → Prop where
  | property {span : Span} {name : String} {value : Expr} {key : Key}
      (spells : key.Spells span (splitNamespace name).2) :
      Placed (.property span name value) (.keyed span key value false false)
  | spread (span : Span) (argument : Expr) :
      Placed (.spread span argument) (.spread span argument)

theorem Entry.placed_inGroup (entry : Entry) : entry.Placed entry.inGroup := by
  cases entry with
  | property span name value => exact .property (spells_propertyKey _ span)
  | spread span argument => exact .spread span argument

/-- The entries of a namespace, in their order. -/
def Entry.ofSpace (space : String) (entries : List Entry) : List Entry :=
  entries.filter fun entry => entry.space = space

theorem Entry.ofSpace_concat (space : String) (entries : List Entry) (entry : Entry) :
    ofSpace space (entries ++ [entry]) =
      ofSpace space entries ++ if entry.space = space then [entry] else [] := by
  rw [ofSpace, List.filter_append, List.filter_singleton]
  simp [ofSpace]

/-- Where an entry stands. -/
inductive Entry.StandsAt : Entry → Span → Prop where
  | property (span : Span) (name : String) (value : Expr) :
      StandsAt (.property span name value) span
  | spread (span : Span) (argument : Expr) : StandsAt (.spread span argument) span

theorem Entry.standsAt_span (entry : Entry) : entry.StandsAt entry.span := by
  cases entry with
  | property span name value => exact .property span name value
  | spread span argument => exact .spread span argument

/-- The property of a namespace: it has the span of the first entry of the namespace, and so have
its key and the object, in which all entries of the namespace are placed. -/
inductive Property.Collects (namespaceOf : Entry → String) (entries : List Entry)
    (space : String) : Property → Prop where
  | intro {first : Entry} {rest : List Entry} {span : Span} {key : Key}
      {properties : List Property}
      (members : (entries.filter fun entry => namespaceOf entry = space) = first :: rest)
      (stands : first.StandsAt span) (spells : key.Spells span space)
      (placed : List.Forall₂ Entry.Placed (first :: rest) properties) :
      Collects namespaceOf entries space (.keyed span key (.object span properties) false false)

namespace Group

/-- The group holds the entries of its namespace, and its span is that of the first of them. -/
def Holds (entries : List Entry) (group : Group) : Prop :=
  ∃ first rest, Entry.ofSpace group.space entries = first :: rest ∧ group.span = first.span ∧
    group.properties = (first :: rest).map Entry.inGroup

/-- The groups that a list of entries makes up. -/
structure Partition (entries : List Entry) (groups : List Group) : Prop where
  order : (groups.map space).Pairwise fun earlier later =>
    (entries.map Entry.space).idxOf earlier < (entries.map Entry.space).idxOf later
  spaces : ∀ name, name ∈ groups.map space ↔ name ∈ entries.map Entry.space
  each : ∀ group ∈ groups, group.Holds entries

theorem partition_nil : Partition [] [] where
  order := .nil
  spaces := by simp
  each := by simp

/-- The group that begins with an entry. -/
def ofEntry (entry : Entry) : Group := ⟨entry.span, entry.space, [entry.inGroup]⟩

/-- The group with one more entry. -/
def extend (entry : Entry) (group : Group) : Group :=
  { group with properties := group.properties ++ [entry.inGroup] }

theorem insert_of_notMem {entry : Entry} {groups : List Group}
    (absent : entry.space ∉ groups.map space) :
    insert entry groups = groups ++ [ofEntry entry] := by
  induction groups with
  | nil => rfl
  | cons group rest inductionHypothesis =>
      rw [List.map_cons, List.mem_cons, not_or] at absent
      rw [insert, if_neg (Ne.symm absent.1), inductionHypothesis absent.2, List.cons_append]

theorem insert_of_mem {entry : Entry} {groups : List Group} (distinct : (groups.map space).Nodup)
    (present : entry.space ∈ groups.map space) :
    insert entry groups =
      groups.map fun group => if group.space = entry.space then group.extend entry else group := by
  induction groups with
  | nil => cases present
  | cons group rest inductionHypothesis =>
      rw [List.map_cons, List.nodup_cons] at distinct
      rw [insert, List.map_cons]
      split
      next same =>
        -- The namespace does not come again, so that nothing else changes.
        have others : ∀ other ∈ rest, other.space ≠ entry.space := by
          intro other membership equal
          exact distinct.1 (List.mem_map.mpr ⟨other, membership, equal.trans same.symm⟩)
        rw [List.map_congr_left fun other membership => if_neg (others other membership),
          List.map_id']
        rfl
      next different =>
        have later : entry.space ∈ rest.map space := by
          rw [List.map_cons, List.mem_cons] at present
          exact present.resolve_left (Ne.symm different)
        rw [inductionHypothesis distinct.2 later]

theorem Holds.concat_of_ne {entries : List Entry} {group : Group} {entry : Entry}
    (holds : group.Holds entries) (other : group.space ≠ entry.space) :
    group.Holds (entries ++ [entry]) := by
  obtain ⟨first, rest, members, place, contents⟩ := holds
  refine ⟨first, rest, ?_, place, contents⟩
  rw [Entry.ofSpace_concat, if_neg (Ne.symm other), members, List.append_nil]

theorem Holds.concat_of_eq {entries : List Entry} {group : Group} {entry : Entry}
    (holds : group.Holds entries) (same : group.space = entry.space) :
    (group.extend entry).Holds (entries ++ [entry]) := by
  obtain ⟨first, rest, members, place, contents⟩ := holds
  refine ⟨first, rest ++ [entry], ?_, place, ?_⟩
  · change Entry.ofSpace group.space _ = _
    rw [Entry.ofSpace_concat, if_pos same.symm, members, List.cons_append]
  · rw [extend, contents]
    simp

theorem holds_ofEntry {entries : List Entry} {entry : Entry}
    (absent : entry.space ∉ entries.map Entry.space) :
    (ofEntry entry).Holds (entries ++ [entry]) := by
  refine ⟨entry, [], ?_, rfl, rfl⟩
  have nothing : Entry.ofSpace entry.space entries = [] := by
    apply List.filter_eq_nil_iff.mpr
    intro other membership equal
    exact absent (List.mem_map.mpr ⟨other, membership, by simpa using equal⟩)
  change Entry.ofSpace entry.space _ = _
  rw [Entry.ofSpace_concat, if_pos rfl, nothing, List.nil_append]

namespace Partition

variable {entries : List Entry} {groups : List Group} (partition : Partition entries groups)

include partition

theorem distinct : (groups.map space).Nodup :=
  partition.order.imp fun earlier equal => by
    rw [equal] at earlier
    exact Nat.lt_irrefl _ earlier

/-- A further entry comes after the first entries of all namespaces that there are. -/
theorem order_concat (entry : Entry) : (groups.map space).Pairwise fun earlier later =>
    ((entries ++ [entry]).map Entry.space).idxOf earlier <
      ((entries ++ [entry]).map Entry.space).idxOf later := by
  refine partition.order.imp_of_mem ?_
  intro earlier later inEarlier inLater before
  rw [List.map_append, List.idxOf_append_of_mem ((partition.spaces _).mp inEarlier),
    List.idxOf_append_of_mem ((partition.spaces _).mp inLater)]
  exact before

theorem insert_of_present {entry : Entry} (present : entry.space ∈ groups.map space) :
    Partition (entries ++ [entry]) (insert entry groups) := by
  rw [insert_of_mem partition.distinct present]
  have names : (groups.map fun group =>
      if group.space = entry.space then group.extend entry else group).map space =
        groups.map space := by
    rw [List.map_map]
    apply List.map_congr_left
    intro group _
    rw [Function.comp_apply]
    split <;> rfl
  constructor
  · rw [names]
    exact partition.order_concat entry
  · intro name
    rw [names, partition.spaces, List.map_append, List.map_singleton, List.mem_append,
      List.mem_singleton]
    refine ⟨.inl, ?_⟩
    rintro (old | rfl)
    · exact old
    · exact (partition.spaces _).mp present
  · intro group membership
    obtain ⟨old, there, rfl⟩ := List.mem_map.mp membership
    split
    next same => exact (partition.each old there).concat_of_eq same
    next other => exact (partition.each old there).concat_of_ne other

theorem insert_of_absent {entry : Entry} (absent : entry.space ∉ groups.map space) :
    Partition (entries ++ [entry]) (insert entry groups) := by
  have new : entry.space ∉ entries.map Entry.space := by rwa [← partition.spaces]
  have names : (groups ++ [ofEntry entry]).map space = groups.map space ++ [entry.space] :=
    List.map_append
  rw [insert_of_notMem absent]
  constructor
  · rw [names]
    refine List.pairwise_append.mpr ⟨partition.order_concat entry, List.pairwise_singleton _ _, ?_⟩
    intro earlier inEarlier later inLater
    cases List.mem_singleton.mp inLater
    have old : earlier ∈ entries.map Entry.space := (partition.spaces _).mp inEarlier
    rw [List.map_append, List.idxOf_append_of_mem old, List.idxOf_append_of_notMem new]
    exact Nat.lt_add_right _ (List.idxOf_lt_length_of_mem old)
  · intro name
    rw [names, List.map_append, List.mem_append, List.mem_append, partition.spaces]
    rfl
  · intro group membership
    rcases List.mem_append.mp membership with old | last
    · refine (partition.each group old).concat_of_ne ?_
      intro equal
      exact absent (List.mem_map.mpr ⟨group, old, equal⟩)
    · cases List.mem_singleton.mp last
      exact holds_ofEntry new

end Partition

/-- The groups of the entries are their partition by namespace. -/
theorem partition_ofEntries (entries : List Entry) : Partition entries (ofEntries entries) := by
  induction entries using List.reverseRecOn with
  | nil => exact partition_nil
  | append_singleton entries entry inductionHypothesis =>
      rw [ofEntries, List.foldl_append]
      by_cases present : entry.space ∈ (ofEntries entries).map space
      · exact inductionHypothesis.insert_of_present present
      · exact inductionHypothesis.insert_of_absent present

end Group

theorem collects_toProperty {entries : List Entry} {group : Group}
    (holds : group.Holds entries) :
    group.toProperty.Collects Entry.space entries group.space := by
  obtain ⟨first, rest, members, place, contents⟩ := holds
  have placed : List.Forall₂ Entry.Placed (first :: rest) ((first :: rest).map Entry.inGroup) :=
    List.forall₂_map_right_iff.mpr
      (List.forall₂_same.mpr fun entry _ => entry.placed_inGroup)
  have object : objectOrNull group.span group.properties =
      .object first.span ((first :: rest).map Entry.inGroup) := by
    rw [contents, place]
    rfl
  rw [Group.toProperty, object, plainProperty, place]
  exact .intro members first.standsAt_span (spells_propertyKey _ _) placed

/-- Grouping is a stable partition by the namespace of the name, or the default one for a spread.
Without entries there are no properties. Otherwise there is one property for each namespace, in the
order in which the namespaces first appear, and it holds all entries of the namespace in their
order. -/
theorem groupedProps_partition_entries (span : Span) (entries : List Entry) :
    ∃ namespaceOf : Entry → String,
      (∀ place name value,
        namespaceOf (.property place name value) = (splitNamespace name).1) ∧
      (∀ place argument, namespaceOf (.spread place argument) = "#default") ∧
      (∀ name, NameParts name (splitNamespace name)) ∧
      (entries = [] ∧ groupedProps span entries = .null span ∨
        entries ≠ [] ∧ ∃ spaces properties,
          groupedProps span entries = .object span properties ∧
          spaces.Nodup ∧ (∀ space, space ∈ spaces ↔ ∃ entry ∈ entries, namespaceOf entry = space) ∧
          (spaces.Pairwise fun earlier later =>
            (entries.map namespaceOf).idxOf earlier < (entries.map namespaceOf).idxOf later) ∧
          List.Forall₂ (Property.Collects namespaceOf entries) spaces properties) := by
  refine ⟨Entry.space, fun _ _ _ => rfl, fun _ _ => rfl, nameParts_splitNamespace, ?_⟩
  cases entries with
  | nil => exact .inl ⟨rfl, rfl⟩
  | cons head tail =>
      have partition := Group.partition_ofEntries (head :: tail)
      generalize given : Group.ofEntries (head :: tail) = groups at partition
      have nonempty : groups ≠ [] := by
        rintro rfl
        exact List.not_mem_nil ((partition.spaces head.space).mpr (by simp))
      refine .inr ⟨by simp, groups.map Group.space, groups.map Group.toProperty, ?_,
        partition.distinct, ?_, partition.order, ?_⟩
      · rw [groupedProps, given, objectOrNull, if_neg (by simpa using nonempty)]
      · intro space
        rw [partition.spaces, List.mem_map]
      · rw [List.forall₂_map_left_iff, List.forall₂_map_right_iff, List.forall₂_same]
        exact fun group membership => collects_toProperty (partition.each group membership)

end JsxLowering
