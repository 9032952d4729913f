import Mathlib.Data.List.Sort
import JsxLowering.Proofs.Fixture.Coverage

set_option autoImplicit false

/-!
The order in which a folder is listed makes no difference to the tests. Whether a folder can
be sorted into suites is a matter of which entries it has: all have to be files with proper
names, and no case may have two expectations. The suites are then told by the files that they
hold, since suites and cases stand in the order of their names. Only which entry a refusal
complains of depends on the order.
-/

namespace JsxLowering.Fixture

theorem bind_pure_eq_error {ε α β : Type} {first : Except ε α} {make : α → β} {cause : ε}
    (bound : (do return make (← first)) = Except.error cause) : first = .error cause := by
  cases first with
  | error other =>
      cases bound
      rfl
  | ok value => cases bound

namespace Role

theorem eq_or_opposite {role other : Role} (expects : role ≠ .source)
    (alsoExpects : other ≠ .source) :
    role = other ∨ role = .code ∧ other = .error ∨ role = .error ∧ other = .code := by
  cases role <;> cases other <;> simp_all

end Role

namespace Table

variable {α ε : Type}

/-- Tables in order are equal if they have the same rows. -/
theorem Ascending.ext {first second : Table α} (ordered : first.Ascending)
    (alsoOrdered : second.Ascending) (same : ∀ row, row ∈ first ↔ row ∈ second) :
    first = second := by
  have rows : first.Pairwise fun row other => row.1 < other.1 := List.pairwise_map.mp ordered
  have others : second.Pairwise fun row other => row.1 < other.1 :=
    List.pairwise_map.mp alsoOrdered
  have perm : first.Perm second := by
    refine (List.perm_ext_iff_of_nodup ?_ ?_).mpr same
    · exact rows.imp fun earlier equal => earlier.ne (congrArg Prod.fst equal)
    · exact others.imp fun earlier equal => earlier.ne (congrArg Prod.fst equal)
  exact perm.eq_of_pairwise (fun _ _ _ _ earlier later => absurd later earlier.not_gt) rows others

/-- Altering a table fails only if the value under the name cannot be changed. -/
theorem failed_of_alter {key : String} {change : Option α → Except ε α} {table : Table α}
    {cause : ε} (failed : alter key change table = .error cause) :
    ∃ before, (∀ old, before = some old → (key, old) ∈ table) ∧ change before = .error cause := by
  induction table with
  | nil => exact ⟨none, by simp, bind_pure_eq_error failed⟩
  | cons row rest inductionHypothesis =>
      obtain ⟨name, value⟩ := row
      unfold alter at failed
      split at failed
      next same =>
        subst same
        exact ⟨some value, by simp, bind_pure_eq_error failed⟩
      next different =>
        split at failed
        next earlier => exact ⟨none, by simp, bind_pure_eq_error failed⟩
        next notEarlier =>
          obtain ⟨before, previous, changed⟩ := inductionHypothesis (bind_pure_eq_error failed)
          exact ⟨before, fun old given => List.mem_cons_of_mem _ (previous old given), changed⟩

end Table

namespace Case

/-- Cases with the same documents are equal. -/
theorem ext_document? {case other : Case}
    (same : ∀ role, case.document? role = other.document? role) : case = other := by
  obtain ⟨source, expectation⟩ := case
  obtain ⟨otherSource, otherExpectation⟩ := other
  have sources : source = otherSource := same .source
  have codes := same .code
  have errors := same .error
  subst sources
  rcases expectation with _ | (_ | _) <;> rcases otherExpectation with _ | (_ | _) <;>
    simp_all [document?]

/-- A case does not have the code and the error that are expected of it both. -/
theorem document?_code_error {case : Case} {code error : Document}
    (first : case.document? .code = some code) : case.document? .error ≠ some error := by
  obtain ⟨source, expectation⟩ := case
  rcases expectation with _ | (_ | _) <;> simp_all [document?]

/-- A file cannot be added only if it is a second expectation. -/
theorem expected_of_add {case : Case} {name : Name} {document : Document} {refusal : Refusal}
    (failed : case.add name document = .error refusal) :
    name.role ≠ .source ∧ ∃ role found, role ≠ .source ∧ case.document? role = some found := by
  have expected : case.expectation.isSome = true →
      ∃ role found, role ≠ .source ∧ case.document? role = some found := by
    intro given
    obtain ⟨expectation, there⟩ := Option.isSome_iff_exists.mp given
    cases expectation with
    | code found => exact ⟨.code, found, by decide, by simp [document?, there]⟩
    | error found => exact ⟨.error, found, by decide, by simp [document?, there]⟩
  unfold add at failed
  split at failed
  next _ => cases failed
  next role =>
    split at failed
    next given => exact ⟨by simp [role], expected given⟩
    next _ => cases failed
  next role =>
    split at failed
    next given => exact ⟨by simp [role], expected given⟩
    next _ => cases failed

end Case

namespace Suites

theorem expected_of_add {suites : Suites} {name : Name} {document : Document} {refusal : Refusal}
    (failed : suites.add name document = .error refusal) :
    name.role ≠ .source ∧
      ∃ role found, role ≠ .source ∧ suites.Files ⟨name.suite, name.case, role⟩ found := by
  obtain ⟨cases, outer, altered⟩ := Table.failed_of_alter failed
  obtain ⟨before, inner, added⟩ := Table.failed_of_alter altered
  obtain ⟨expects, role, found, expected, filed⟩ := Case.expected_of_add added
  refine ⟨expects, role, found, expected, ?_⟩
  -- A case and a suite that are not there yet hold no file.
  cases before with
  | none => cases role <;> cases filed
  | some case =>
      have here := inner case rfl
      cases cases with
      | none => cases here
      | some rows => exact ⟨case, ⟨rows, outer rows rfl, here⟩, filed⟩

/-- The entries of a folder that can be sorted: files with proper names, and among them no two
expectations of one case. -/
structure Sortable (entries : List Entry) : Prop where
  named : ∀ entry ∈ entries, ∃ text name,
    entry = .file entry.name text ∧ Name.parse entry.name = .ok name
  single : ∀ first ∈ entries, ∀ second ∈ entries, ∀ suite case,
    Name.parse first.name = .ok ⟨suite, case, .code⟩ →
      Name.parse second.name ≠ .ok ⟨suite, case, .error⟩

theorem Sortable.subset {entries others : List Entry} (sortable : Sortable entries)
    (subset : others ⊆ entries) : Sortable others where
  named entry membership := sortable.named entry (subset membership)
  single first inFirst second inSecond :=
    sortable.single first (subset inFirst) second (subset inSecond)

theorem Sorts.sortable {suites : Suites} {entries : List Entry} (sorts : suites.Sorts entries) :
    Sortable entries where
  named := sorts.named
  single first inFirst second inSecond suite case code error := by
    obtain ⟨_, _, held, filed⟩ := holds_of_entry sorts inFirst code
    obtain ⟨_, _, alsoHeld, alsoFiled⟩ := holds_of_entry sorts inSecond error
    cases sorts.wellFormed.unique held alsoHeld
    exact Case.document?_code_error filed alsoFiled

/-- A file with a name of its own can be added where no expectation of its case has been. -/
theorem Sorts.exists_add {suites : Suites} {entries : List Entry} (sorts : suites.Sorts entries)
    {text : String} {content : Option String} {name : Name}
    (distinct : text ∉ entries.map Entry.name) (read : Name.parse text = .ok name)
    (sortable : Sortable (entries ++ [.file text content])) :
    ∃ result, suites.add name ⟨text, content⟩ = .ok result := by
  cases added : suites.add name ⟨text, content⟩ with
  | ok result => exact ⟨result, rfl⟩
  | error refusal =>
      obtain ⟨expects, role, found, expected, files⟩ := expected_of_add added
      obtain ⟨membership, parsed⟩ := (sorts.files _ _).mp files
      have old : Entry.file found.name found.text ∈ entries ++ [.file text content] :=
        List.mem_append_left _ membership
      have new : Entry.file text content ∈ entries ++ [.file text content] := by simp
      obtain ⟨suite, case, kind⟩ := name
      rcases Role.eq_or_opposite expected expects with same | ⟨rfl, other⟩ | ⟨rfl, other⟩
      · cases same
        have sameText : found.name = text :=
          (Name.parse_eq_ok_iff.mp parsed).2.2.symm.trans (Name.parse_eq_ok_iff.mp read).2.2
        exact absurd (List.mem_map.mpr ⟨_, membership, sameText⟩) distinct
      · cases other
        exact absurd read (sortable.single _ old _ new suite case parsed)
      · cases other
        exact absurd parsed (sortable.single _ new _ old suite case read)

theorem discover_concat (entries : List Entry) (entry : Entry) :
    discover (entries ++ [entry]) = discover entries >>= fun suites => suites.addEntry entry := by
  simp [discover, List.foldlM_append]

/-- Exactly the folders with sortable entries are sorted. -/
theorem exists_discover_iff {entries : List Entry} (distinct : (entries.map Entry.name).Nodup) :
    (∃ suites, discover entries = .ok suites) ↔ Sortable entries := by
  constructor
  · rintro ⟨suites, discovered⟩
    exact (sorts_of_discover distinct discovered).sortable
  · intro sortable
    induction entries using List.reverseRecOn with
    | nil => exact ⟨[], rfl⟩
    | append_singleton entries entry inductionHypothesis =>
        rw [List.map_append, List.nodup_append] at distinct
        have before := sortable.subset (List.subset_append_left entries [entry])
        obtain ⟨suites, discovered⟩ := inductionHypothesis distinct.1 before
        obtain ⟨content, name, same, read⟩ := sortable.named entry (by simp)
        have fresh : entry.name ∉ entries.map Entry.name :=
          fun membership => distinct.2.2 _ membership _ (by simp) rfl
        rw [same] at sortable
        obtain ⟨result, added⟩ :=
          (sorts_of_discover distinct.1 discovered).exists_add fresh read sortable
        refine ⟨result, ?_⟩
        calc
          discover (entries ++ [entry]) = suites.addEntry entry := by
            rw [discover_concat, discovered]
            rfl
          _ = suites.add name ⟨entry.name, content⟩ := by
            rw [same, addEntry, ← same, read]
            rfl
          _ = .ok result := added

theorem WellFormed.mem_iff_holds {suites : Suites} (wellFormed : suites.WellFormed)
    {suite : String} {cases : Table Case} (there : (suite, cases) ∈ suites) {name : String}
    {case : Case} : (name, case) ∈ cases ↔ suites.Holds suite name case := by
  constructor
  · exact fun here => ⟨cases, there, here⟩
  · rintro ⟨others, alsoThere, here⟩
    rwa [wellFormed.ascending.unique there alsoThere]

theorem WellFormed.mem_of_holds {suites others : Suites} (wellFormed : suites.WellFormed)
    (alsoWellFormed : others.WellFormed)
    (same : ∀ suite name case, suites.Holds suite name case ↔ others.Holds suite name case)
    {row : String × Table Case} (there : row ∈ suites) : row ∈ others := by
  obtain ⟨suite, cases⟩ := row
  obtain ⟨ordered, nonempty⟩ := wellFormed.cases _ there
  obtain ⟨⟨name, case⟩, here⟩ := List.exists_mem_of_ne_nil _ nonempty
  obtain ⟨found, alsoThere, _⟩ := (same suite name case).mp ⟨cases, there, here⟩
  have equal : cases = found := by
    refine ordered.ext (alsoWellFormed.cases _ alsoThere).1 ?_
    rintro ⟨name, case⟩
    rw [wellFormed.mem_iff_holds there, alsoWellFormed.mem_iff_holds alsoThere, same]
  rwa [equal]

/-- Suites in order are equal if they hold the same cases. -/
theorem WellFormed.ext {suites others : Suites} (wellFormed : suites.WellFormed)
    (alsoWellFormed : others.WellFormed)
    (same : ∀ suite name case, suites.Holds suite name case ↔ others.Holds suite name case) :
    suites = others := by
  refine wellFormed.ascending.ext alsoWellFormed.ascending fun row => ⟨?_, ?_⟩
  · exact wellFormed.mem_of_holds alsoWellFormed same
  · exact alsoWellFormed.mem_of_holds wellFormed fun suite name case => (same suite name case).symm

theorem WellFormed.files_iff {suites : Suites} (wellFormed : suites.WellFormed)
    {suite name : String} {case : Case} (held : suites.Holds suite name case) (role : Role)
    (document : Document) :
    suites.Files ⟨suite, name, role⟩ document ↔ case.document? role = some document := by
  constructor
  · rintro ⟨other, alsoHeld, filed⟩
    rwa [wellFormed.unique held alsoHeld]
  · exact fun filed => ⟨case, held, filed⟩

theorem Sorts.holds_of_files {suites others : Suites} {entries listed : List Entry}
    (sorts : suites.Sorts entries) (alsoSorts : others.Sorts listed)
    (same : ∀ name document, suites.Files name document ↔ others.Files name document)
    {suite name : String} {case : Case} (held : suites.Holds suite name case) :
    others.Holds suite name case := by
  obtain ⟨role, document, filed⟩ := sorts.inhabited _ _ _ held
  obtain ⟨other, alsoHeld, _⟩ := (same ⟨suite, name, role⟩ document).mp ⟨case, held, filed⟩
  have equal : case = other := by
    apply Case.ext_document?
    intro role
    apply Option.ext
    intro document
    rw [← sorts.wellFormed.files_iff held, ← alsoSorts.wellFormed.files_iff alsoHeld, same]
  rwa [equal]

/-- The same files are sorted into the same suites, in whatever order they are listed. -/
theorem Sorts.eq_of_perm {suites others : Suites} {entries listed : List Entry}
    (sorts : suites.Sorts entries) (alsoSorts : others.Sorts listed)
    (perm : entries.Perm listed) : suites = others := by
  have same : ∀ name document, suites.Files name document ↔ others.Files name document := by
    intro name document
    rw [sorts.files, alsoSorts.files, perm.mem_iff]
  refine sorts.wellFormed.ext alsoSorts.wellFormed fun suite name case => ⟨?_, ?_⟩
  · exact sorts.holds_of_files alsoSorts same
  · exact alsoSorts.holds_of_files sorts fun name document => (same name document).symm

theorem discover_of_perm {entries others : List Entry}
    (distinct : (entries.map Entry.name).Nodup) (perm : entries.Perm others) {suites : Suites}
    (discovered : discover entries = .ok suites) : discover others = .ok suites := by
  have alsoDistinct : (others.map Entry.name).Nodup := (perm.map Entry.name).nodup_iff.mp distinct
  have sorts := sorts_of_discover distinct discovered
  obtain ⟨found, alsoDiscovered⟩ :=
    (exists_discover_iff alsoDistinct).mpr (sorts.sortable.subset perm.symm.subset)
  rw [alsoDiscovered, sorts.eq_of_perm (sorts_of_discover alsoDistinct alsoDiscovered) perm]

theorem refused_of_perm {entries others : List Entry}
    (distinct : (entries.map Entry.name).Nodup) (perm : entries.Perm others)
    (refused : ∃ refusal, discover entries = .error refusal) :
    ∃ refusal, discover others = .error refusal := by
  obtain ⟨refusal, refused⟩ := refused
  cases discovered : discover others with
  | error cause => exact ⟨cause, rfl⟩
  | ok suites =>
      have alsoDistinct := (perm.map Entry.name).nodup_iff.mp distinct
      cases refused.symm.trans (discover_of_perm alsoDistinct perm.symm discovered)

end Suites

theorem generate_of_discover {entries : List Entry} {suites : Suites}
    (discovered : Suites.discover entries = .ok suites) :
    generate (some entries) =
      ⟨some (String.join ((modules suites).1.map Module.toText)), (modules suites).2⟩ := by
  simp [generate, discovered]

/-- The order of a listing does not matter. Two listings of the same entries are both refused, or
both sorted into the same suites, from which the same tests are written. -/
theorem discover_ignores_listing_order (entries others : List Entry)
    (distinct : (entries.map Entry.name).Nodup) (perm : entries.Perm others) :
    ((∃ refusal, Suites.discover entries = .error refusal) ↔
      ∃ refusal, Suites.discover others = .error refusal) ∧
    (∀ suites, Suites.discover entries = .ok suites →
      Suites.discover others = .ok suites ∧
        generate (some others) = generate (some entries)) := by
  have alsoDistinct : (others.map Entry.name).Nodup := (perm.map Entry.name).nodup_iff.mp distinct
  refine ⟨⟨?_, ?_⟩, ?_⟩
  · exact Suites.refused_of_perm distinct perm
  · exact Suites.refused_of_perm alsoDistinct perm.symm
  · intro suites discovered
    have alsoDiscovered := Suites.discover_of_perm distinct perm discovered
    refine ⟨alsoDiscovered, ?_⟩
    rw [generate_of_discover alsoDiscovered, generate_of_discover discovered]

/-- A case whose expectation is listed before its source, between the files of another suite. -/
def scattered : List Entry :=
  [.file "targeted.tag.err" (some "Namespace"), .file "grouped.list.js" (some "[];"),
    .file "targeted.tag.jsx" (some "<a:b/>;"), .file "grouped.list.jsx" (some "<></>;")]

theorem discover_ignores_listing_order_scattered :
    (scattered.map Entry.name).Nodup ∧ scattered.Perm scattered.reverse ∧
      ∃ suites, Suites.discover scattered = .ok suites ∧
        Suites.discover scattered.reverse = .ok suites ∧
        generate (some scattered.reverse) = generate (some scattered) := by
  have distinct : (scattered.map Entry.name).Nodup := by decide
  have perm : scattered.Perm scattered.reverse := (List.reverse_perm scattered).symm
  have sorted : (Suites.discover scattered).isOk = true := by decide +kernel
  obtain ⟨suites, discovered⟩ : ∃ suites, Suites.discover scattered = .ok suites := by
    cases discovered : Suites.discover scattered with
    | ok suites => exact ⟨suites, rfl⟩
    | error refusal => simp [discovered, Except.isOk, Except.toBool] at sorted
  exact ⟨distinct, perm, suites, discovered,
    (discover_ignores_listing_order scattered scattered.reverse distinct perm).2 suites discovered⟩

end JsxLowering.Fixture
