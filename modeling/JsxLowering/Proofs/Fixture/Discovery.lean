import Mathlib.Data.List.Induction
import Mathlib.Data.List.Nodup
import Mathlib.Data.String.Basic
import JsxLowering.Fixture.Suite
import JsxLowering.Proofs.Pieces

set_option autoImplicit false

/-!
What sorting a folder of fixtures into suites amounts to. A table is altered in one row and
stays in ascending order; adding a file alters one case in one of the files it consists of. So
after all files have been added the suites hold each of them under the parts of its name, and
nothing else, whatever the order in which they came.
-/

namespace JsxLowering.Fixture

theorem bind_eq_ok {ε α β : Type} {first : Except ε α} {next : α → Except ε β} {result : β}
    (bound : first >>= next = .ok result) :
    ∃ value, first = .ok value ∧ next value = .ok result := by
  cases first with
  | error cause => cases bound
  | ok value => exact ⟨value, rfl, bound⟩

theorem bind_pure_eq_ok {ε α β : Type} {first : Except ε α} {make : α → β} {result : β}
    (bound : (do return make (← first)) = Except.ok result) :
    ∃ value, first = .ok value ∧ make value = result := by
  obtain ⟨value, given, made⟩ := bind_eq_ok bound
  exact ⟨value, given, Except.ok.inj made⟩

namespace Role

def extension : Role → String
  | source => "jsx"
  | code => "js"
  | error => "err"

theorem ofExtension?_eq_some_iff {extension : String} {role : Role} :
    ofExtension? extension = some role ↔ role.extension = extension := by
  constructor
  · intro given
    unfold ofExtension? at given
    split_ifs at given with jsx js err <;> cases given
    · exact jsx.symm
    · exact js.symm
    · exact err.symm
  · rintro rfl
    cases role <;> rfl

end Role

theorem dot_notMem_of_isPlainName {name : String} (plain : isPlainName name = true) :
    '.' ∉ name.toList := by
  unfold isPlainName at plain
  split at plain
  next _ => cases plain
  next first rest given =>
    simp only [Bool.and_eq_true, List.all_eq_true] at plain
    rw [given]
    intro membership
    rcases List.mem_cons.mp membership with rfl | later
    · exact absurd plain.1 (by decide)
    · exact absurd (plain.2 '.' later) (by decide)

namespace Name

/-- The name as text. -/
def toText (name : Name) : String :=
  name.suite ++ "." ++ name.case ++ "." ++ name.role.extension

theorem splitOn_toText {name : Name} (suite : isPlainName name.suite = true)
    (case : isPlainName name.case = true) :
    name.toText.toList.splitOn '.' =
      [name.suite.toList, name.case.toList, name.role.extension.toList] := by
  have dotless : ∀ part ∈ [name.suite.toList, name.case.toList, name.role.extension.toList],
      '.' ∉ part := by
    have extension : '.' ∉ name.role.extension.toList := by cases name.role <;> decide
    simp [dot_notMem_of_isPlainName suite, dot_notMem_of_isPlainName case, extension]
  have joined : name.toText.toList = ['.'].intercalate
      [name.suite.toList, name.case.toList, name.role.extension.toList] := by
    simp [toText, List.intercalate]
  rw [joined]
  exact List.splitOn_intercalate '.' dotless (by simp)

/-- Exactly the texts of names with a plain suite and a plain case are read, as those names. -/
theorem parse_eq_ok_iff {text : String} {name : Name} :
    parse text = .ok name ↔
      isPlainName name.suite = true ∧ isPlainName name.case = true ∧ name.toText = text := by
  have parts : (Text.pieces (· == '.') text.toList).map String.ofList =
      (text.toList.splitOn '.').map String.ofList := by
    rw [Text.pieces_eq]
    rfl
  unfold parse
  rw [parts]
  constructor
  · intro read
    split at read
    next suite case extension split =>
      split_ifs at read with wrongSuite wrongCase
      split at read
      next role known =>
        cases read
        refine ⟨by simpa using wrongSuite, by simpa using wrongCase, ?_⟩
        have pieces : text.toList.splitOn '.' =
            [suite.toList, case.toList, extension.toList] := by
          simpa [Function.comp_def] using congrArg (List.map String.toList) split
        have joined : ['.'].intercalate (text.toList.splitOn '.') = text.toList :=
          List.intercalate_splitOn '.'
        apply String.toList_inj.mp
        rw [← joined, pieces, toText, Role.ofExtension?_eq_some_iff.mp known]
        simp [List.intercalate]
      next _ => cases read
    next _ => cases read
  · rintro ⟨suite, case, rfl⟩
    have known : Role.ofExtension? name.role.extension = some name.role :=
      Role.ofExtension?_eq_some_iff.mpr rfl
    simp [splitOn_toText suite case, suite, case, known]

end Name

namespace Table

variable {α ε : Type}

/-- The names of a table are in strictly ascending order. -/
def Ascending (table : Table α) : Prop := (table.map Prod.fst).Pairwise (· < ·)

theorem ascending_cons {name : String} {value : α} {rest : Table α} :
    Ascending ((name, value) :: rest) ↔ (∀ row ∈ rest, name < row.1) ∧ rest.Ascending := by
  simp [Ascending]

theorem Ascending.unique {table : Table α} (ascending : table.Ascending) {key : String}
    {value other : α} (first : (key, value) ∈ table) (second : (key, other) ∈ table) :
    value = other := by
  have distinct : (table.map Prod.fst).Nodup := ascending.imp ne_of_lt
  have same := List.inj_on_of_nodup_map distinct first second rfl
  exact congrArg Prod.snd same

/-- What changing one row of a table comes to. -/
structure Altered (key : String) (before : Option α) (after : α) (table result : Table α) :
    Prop where
  previous : ∀ old, before = some old ↔ (key, old) ∈ table
  rows : ∀ row, row ∈ result ↔ row = (key, after) ∨ row ∈ table ∧ row.1 ≠ key
  ascending : result.Ascending

theorem altered_put {key : String} {after : α} {table : Table α} (ascending : table.Ascending)
    (least : ∀ row ∈ table, key < row.1) :
    Altered key none after table ((key, after) :: table) where
  previous old := by
    constructor
    · intro found
      cases found
    · intro membership
      exact absurd (least _ membership) (lt_irrefl key)
  rows row := by
    have other : row ∈ table → row.1 ≠ key := fun membership => (least row membership).ne'
    rw [List.mem_cons]
    tauto
  ascending := ascending_cons.mpr ⟨least, ascending⟩

theorem altered_replace {key : String} {old after : α} {rest : Table α}
    (ascending : Ascending ((key, old) :: rest)) :
    Altered key (some old) after ((key, old) :: rest) ((key, after) :: rest) := by
  obtain ⟨least, ordered⟩ := ascending_cons.mp ascending
  have other : ∀ row ∈ rest, row.1 ≠ key := fun row membership => (least row membership).ne'
  constructor
  · intro value
    have absent : (key, value) ∉ rest := fun membership => other _ membership rfl
    simp [absent, eq_comm]
  · intro row
    constructor
    · intro membership
      rcases List.mem_cons.mp membership with rfl | later
      · exact .inl rfl
      · exact .inr ⟨List.mem_cons_of_mem _ later, other row later⟩
    · rintro (rfl | ⟨membership, different⟩)
      · exact List.mem_cons_self
      · rcases List.mem_cons.mp membership with rfl | later
        · exact absurd rfl different
        · exact List.mem_cons_of_mem _ later
  · exact ascending_cons.mpr ⟨least, ordered⟩

theorem Altered.cons {key name : String} {before : Option α} {value after : α}
    {rest result : Table α} (altered : Altered key before after rest result) (later : name < key)
    (least : ∀ row ∈ rest, name < row.1) :
    Altered key before after ((name, value) :: rest) ((name, value) :: result) := by
  constructor
  · intro old
    simp [altered.previous old, later.ne']
  · intro row
    rw [List.mem_cons, altered.rows, List.mem_cons]
    have different : row = (name, value) → row.1 ≠ key := by
      rintro rfl
      exact later.ne
    tauto
  · refine ascending_cons.mpr ⟨?_, altered.ascending⟩
    intro row membership
    rcases (altered.rows row).mp membership with rfl | ⟨old, _⟩
    · exact later
    · exact least row old

/-- Altering a table changes the value under one name, and nothing else. -/
theorem altered_of_alter {key : String} {change : Option α → Except ε α} {table result : Table α}
    (ascending : table.Ascending) (altered : alter key change table = .ok result) :
    ∃ before after, change before = .ok after ∧ Altered key before after table result := by
  induction table generalizing result with
  | nil =>
      obtain ⟨after, changed, rfl⟩ := bind_pure_eq_ok altered
      exact ⟨none, after, changed, altered_put ascending (by simp)⟩
  | cons row rest inductionHypothesis =>
      obtain ⟨name, value⟩ := row
      obtain ⟨least, ordered⟩ := ascending_cons.mp ascending
      unfold alter at altered
      split at altered
      next same =>
        subst same
        obtain ⟨after, changed, rfl⟩ := bind_pure_eq_ok altered
        exact ⟨some value, after, changed, altered_replace ascending⟩
      next different =>
        split at altered
        next earlier =>
          obtain ⟨after, changed, rfl⟩ := bind_pure_eq_ok altered
          refine ⟨none, after, changed, altered_put ascending ?_⟩
          intro row membership
          rcases List.mem_cons.mp membership with rfl | later
          · exact earlier
          · exact earlier.trans (least row later)
        next notEarlier =>
          have later : name < key := lt_of_le_of_ne (not_lt.mp notEarlier) (Ne.symm different)
          obtain ⟨others, continued, rfl⟩ := bind_pure_eq_ok altered
          obtain ⟨before, after, changed, there⟩ := inductionHypothesis ordered continued
          exact ⟨before, after, changed, there.cons later least⟩

end Table

namespace Case

/-- The file of a case with the given role. -/
def document? (case : Case) : Role → Option Document
  | .source => case.source
  | .code =>
      match case.expectation with
      | some (.code document) => some document
      | _ => none
  | .error =>
      match case.expectation with
      | some (.error document) => some document
      | _ => none

theorem document?_add {case result : Case} {name : Name} {document : Document}
    (added : case.add name document = .ok result) (role : Role) :
    result.document? role = if role = name.role then some document else case.document? role := by
  unfold add at added
  split at added
  next given =>
    cases added
    cases role <;> simp [document?, given]
  next given =>
    split at added
    next _ => cases added
    next free =>
      cases added
      have none : case.expectation = none := by simpa using free
      cases role <;> simp [document?, given, none]
  next given =>
    split at added
    next _ => cases added
    next free =>
      cases added
      have none : case.expectation = none := by simpa using free
      cases role <;> simp [document?, given, none]

end Case

namespace Suites

/-- There is a case with the given name in the given suite. -/
def Holds (suites : Suites) (suite name : String) (case : Case) : Prop :=
  ∃ cases, (suite, cases) ∈ suites ∧ (name, case) ∈ cases

/-- Suites and cases are in order, and no suite is empty. -/
structure WellFormed (suites : Suites) : Prop where
  ascending : Table.Ascending suites
  cases : ∀ row ∈ suites, Table.Ascending row.2 ∧ row.2 ≠ []

theorem WellFormed.unique {suites : Suites} (wellFormed : suites.WellFormed) {suite name : String}
    {case other : Case} (first : suites.Holds suite name case)
    (second : suites.Holds suite name other) : case = other := by
  obtain ⟨cases, there, here⟩ := first
  obtain ⟨others, alsoThere, alsoHere⟩ := second
  cases wellFormed.ascending.unique there alsoThere
  exact (wellFormed.cases _ there).1.unique here alsoHere

/-- What adding a file to its case comes to. -/
structure Added (name : Name) (document : Document) (before : Option Case) (after : Case)
    (suites result : Suites) : Prop where
  wellFormed : result.WellFormed
  previous : ∀ old, before = some old ↔ suites.Holds name.suite name.case old
  add : (before.getD .empty).add name document = .ok after
  cases : ∀ suite case found, result.Holds suite case found ↔
    (suite = name.suite ∧ case = name.case ∧ found = after) ∨
      suites.Holds suite case found ∧ ¬(suite = name.suite ∧ case = name.case)

theorem added_of_add {suites result : Suites} {name : Name} {document : Document}
    (wellFormed : suites.WellFormed) (added : suites.add name document = .ok result) :
    ∃ before after, Added name document before after suites result := by
  obtain ⟨cases, altered, changed, outer⟩ := Table.altered_of_alter wellFormed.ascending added
  have ordered : Table.Ascending (cases.getD []) := by
    cases given : cases with
    | none => exact List.Pairwise.nil
    | some old => exact (wellFormed.cases _ ((outer.previous old).mp given)).1
  obtain ⟨before, after, add, inner⟩ := Table.altered_of_alter ordered changed
  -- The suite that is altered has the cases that it had before, if it was there.
  have members : ∀ row, row ∈ cases.getD [] ↔ ∃ old, (name.suite, old) ∈ suites ∧ row ∈ old := by
    intro row
    cases given : cases with
    | none =>
        have absent : ∀ old, (name.suite, old) ∉ suites := by
          intro old membership
          have found := (outer.previous old).mpr membership
          rw [given] at found
          cases found
        simp [absent]
    | some old =>
        have only : ∀ other, (name.suite, other) ∈ suites ↔ other = old := by
          intro other
          rw [← outer.previous, given, Option.some.injEq, eq_comm]
        simp [only]
  refine ⟨before, after, ⟨outer.ascending, ?_⟩, ?_, add, ?_⟩
  · intro row membership
    rcases (outer.rows row).mp membership with rfl | ⟨old, _⟩
    · exact ⟨inner.ascending, List.ne_nil_of_mem ((inner.rows _).mpr (.inl rfl))⟩
    · exact wellFormed.cases row old
  · intro old
    rw [inner.previous, members]
    rfl
  · intro suite case found
    constructor
    · rintro ⟨others, there, here⟩
      rcases (outer.rows _).mp there with same | ⟨old, different⟩
      · cases same
        rcases (inner.rows _).mp here with changed | ⟨kept, other⟩
        · cases changed
          exact .inl ⟨rfl, rfl, rfl⟩
        · exact .inr ⟨(members _).mp kept, fun both => other both.2⟩
      · exact .inr ⟨⟨others, old, here⟩, fun both => different both.1⟩
    · rintro (⟨rfl, rfl, rfl⟩ | ⟨⟨others, there, here⟩, different⟩)
      · exact ⟨altered, (outer.rows _).mpr (.inl rfl), (inner.rows _).mpr (.inl rfl)⟩
      · by_cases same : suite = name.suite
        · subst same
          have kept : (case, found) ∈ cases.getD [] := (members _).mpr ⟨others, there, here⟩
          have other : case ≠ name.case := fun equal => different ⟨rfl, equal⟩
          exact ⟨altered, (outer.rows _).mpr (.inl rfl), (inner.rows _).mpr (.inr ⟨kept, other⟩)⟩
        · exact ⟨others, (outer.rows _).mpr (.inr ⟨there, same⟩), here⟩

/-- A file is held under the parts of a name. -/
def Files (suites : Suites) (name : Name) (document : Document) : Prop :=
  ∃ case, suites.Holds name.suite name.case case ∧ case.document? name.role = some document

theorem Added.files {suites result : Suites} {name : Name} {document : Document}
    {before : Option Case} {after : Case} (added : Added name document before after suites result)
    (other : Name) (found : Document) :
    result.Files other found ↔
      (other = name ∧ found = document) ∨ suites.Files other found ∧ other ≠ name := by
  have documents := fun role => Case.document?_add added.add role
  obtain ⟨suite, case, role⟩ := other
  constructor
  · rintro ⟨case', held, filed⟩
    rcases (added.cases _ _ _).mp held with ⟨rfl, rfl, rfl⟩ | ⟨old, different⟩
    · rw [documents role] at filed
      split at filed
      next same =>
        subst same
        cases filed
        exact .inl ⟨rfl, rfl⟩
      next distinct =>
        refine .inr ⟨?_, fun equal => distinct (congrArg Name.role equal)⟩
        cases given : before with
        | none =>
            rw [given] at filed
            cases role <;> cases filed
        | some old =>
            rw [given] at filed
            exact ⟨old, (added.previous old).mp given, filed⟩
    · refine .inr ⟨⟨case', old, filed⟩, ?_⟩
      rintro rfl
      exact different ⟨rfl, rfl⟩
  · rintro (⟨rfl, rfl⟩ | ⟨⟨case', held, filed⟩, different⟩)
    · refine ⟨after, (added.cases _ _ _).mpr (.inl ⟨rfl, rfl, rfl⟩), ?_⟩
      rw [documents, if_pos rfl]
    · by_cases same : suite = name.suite ∧ case = name.case
      · obtain ⟨rfl, rfl⟩ := same
        have distinct : role ≠ name.role := by
          rintro rfl
          exact different rfl
        refine ⟨after, (added.cases _ _ _).mpr (.inl ⟨rfl, rfl, rfl⟩), ?_⟩
        rw [documents, if_neg distinct, (added.previous case').mpr held]
        exact filed
      · exact ⟨case', (added.cases _ _ _).mpr (.inr ⟨held, same⟩), filed⟩

/-- The suites hold the files of a folder, each under the parts of its name, and nothing else. -/
structure Sorts (suites : Suites) (entries : List Entry) : Prop where
  wellFormed : suites.WellFormed
  named : ∀ entry ∈ entries, ∃ text name,
    entry = .file entry.name text ∧ Name.parse entry.name = .ok name
  files : ∀ name document, suites.Files name document ↔
    .file document.name document.text ∈ entries ∧ Name.parse document.name = .ok name
  inhabited : ∀ suite name case, suites.Holds suite name case →
    ∃ role document, case.document? role = some document

theorem sorts_nil : Sorts [] [] where
  wellFormed := ⟨List.Pairwise.nil, by simp⟩
  named := by simp
  files := by simp [Files, Holds]
  inhabited := by simp [Holds]

theorem Sorts.add {suites result : Suites} {entries : List Entry} {text : String}
    {content : Option String} {name : Name} (sorts : suites.Sorts entries)
    (distinct : text ∉ entries.map Entry.name) (read : Name.parse text = .ok name)
    (added : suites.add name ⟨text, content⟩ = .ok result) :
    result.Sorts (entries ++ [.file text content]) := by
  obtain ⟨before, after, addition⟩ := added_of_add sorts.wellFormed added
  refine ⟨addition.wellFormed, ?_, ?_, ?_⟩
  · intro entry membership
    rcases List.mem_append.mp membership with old | new
    · exact sorts.named entry old
    · cases List.mem_singleton.mp new
      exact ⟨content, name, rfl, read⟩
  · intro other document
    rw [addition.files, sorts.files, List.mem_append, List.mem_singleton]
    constructor
    · rintro (⟨rfl, rfl⟩ | ⟨⟨old, parsed⟩, _⟩)
      · exact ⟨.inr rfl, read⟩
      · exact ⟨.inl old, parsed⟩
    · rintro ⟨old | new, parsed⟩
      · refine .inr ⟨⟨old, parsed⟩, ?_⟩
        -- A name that is read from the new file is the text of no other.
        rintro rfl
        have same : document.name = text :=
          (Name.parse_eq_ok_iff.mp parsed).2.2.symm.trans (Name.parse_eq_ok_iff.mp read).2.2
        exact distinct (List.mem_map.mpr ⟨_, old, same⟩)
      · obtain ⟨given, rest⟩ := document
        cases new
        rw [read] at parsed
        cases parsed
        exact .inl ⟨rfl, rfl⟩
  · intro suite case found held
    rcases (addition.cases _ _ _).mp held with ⟨_, _, rfl⟩ | ⟨old, _⟩
    · refine ⟨name.role, ⟨text, content⟩, ?_⟩
      rw [Case.document?_add addition.add, if_pos rfl]
    · exact sorts.inhabited suite case found old

/-- Sorting a folder keeps every file, in whatever order the files come. -/
theorem sorts_of_discover {entries : List Entry} (distinct : (entries.map Entry.name).Nodup)
    {suites : Suites} (discovered : discover entries = .ok suites) : suites.Sorts entries := by
  induction entries using List.reverseRecOn generalizing suites with
  | nil =>
      cases discovered
      exact sorts_nil
  | append_singleton entries entry inductionHypothesis =>
      rw [discover, List.foldlM_append] at discovered
      obtain ⟨before, front, last⟩ := bind_eq_ok discovered
      obtain ⟨after, added, finished⟩ := bind_eq_ok last
      cases finished
      rw [List.map_append, List.nodup_append] at distinct
      have sorts := inductionHypothesis distinct.1 front
      cases entry with
      | folder name => cases added
      | file text content =>
          obtain ⟨name, read, stored⟩ := bind_eq_ok added
          refine sorts.add ?_ read stored
          intro membership
          exact distinct.2.2 text membership text (by simp [Entry.name]) rfl

end Suites

end JsxLowering.Fixture
