import Mathlib.Data.List.Forall2
import Mathlib.Data.List.Nodup
import JsxLowering.Proofs.Fixture.Discovery
import JsxLowering.Proofs.Fixture.Writing
import JsxLowering.Proofs.Trimming

set_option autoImplicit false

/-!
What tests are written from a folder of fixtures. Where the generator completes, every suite
has become a module and every case a test, so that the files used by the tests are the files of
the folder, each used once.
-/

namespace JsxLowering.Fixture

/-- The name of a file of a case. -/
def fileName (suite case extension : String) : String :=
  suite ++ "." ++ case ++ "." ++ extension

/-- The check is made from the one expectation of a case. -/
inductive Check.Expects (entries : List Entry) (suite case : String) : Check → Prop where
  | lowers {code : String} (given : .file (fileName suite case "js") (some code) ∈ entries)
      (only : fileName suite case "err" ∉ entries.map Entry.name) :
      Expects entries suite case (.lowers code)
  | fails {text message : String} {middle : List Char}
      (given : .file (fileName suite case "err") (some text) ∈ entries)
      (front : Side.first.Strips text.toList middle)
      (back : Side.last.Strips middle message.toList)
      (only : fileName suite case "js" ∉ entries.map Entry.name) :
      Expects entries suite case (.fails message)

/-- The test is made from the files of its case. -/
structure Test.Runs (entries : List Entry) (suite : String) (test : Test) : Prop where
  path : test.path = "./tests/" ++ fileName suite test.case "jsx"
  source : .file (fileName suite test.case "jsx") (some test.source) ∈ entries
  check : test.check.Expects entries suite test.case

/-- The module has a test for each case of its suite. -/
structure Module.Covers (entries : List Entry) (module : Module) : Prop where
  ascending : (module.tests.map Test.case).Pairwise (· < ·)
  cases : ∀ case, case ∈ module.tests.map Test.case ↔
    ∃ extension, fileName module.suite case extension ∈ entries.map Entry.name
  tests : ∀ test ∈ module.tests, test.Runs entries module.suite

/-- The names of the files that a test is made from. -/
def Test.files (suite : String) (test : Test) : List String :=
  match test.check with
  | .lowers _ => [fileName suite test.case "jsx", fileName suite test.case "js"]
  | .fails _ => [fileName suite test.case "jsx", fileName suite test.case "err"]

/-- The modules test what is in the folder, and use each of its files once. -/
structure Covers (entries : List Entry) (modules : List Module) : Prop where
  ascending : (modules.map Module.suite).Pairwise (· < ·)
  suites : ∀ suite, suite ∈ modules.map Module.suite ↔
    ∃ case extension, fileName suite case extension ∈ entries.map Entry.name
  each : ∀ module ∈ modules, module.Covers entries
  files : (modules.flatMap fun module => module.tests.flatMap (Test.files module.suite)).Perm
    (entries.map Entry.name)

/-- The role of the file that a check is made from. -/
def Check.role : Check → Role
  | lowers _ => .code
  | fails _ => .error

/-- The files that a test is made from, by the parts of their names. -/
def Test.names (suite : String) (test : Test) : List Name :=
  [⟨suite, test.case, .source⟩, ⟨suite, test.case, test.check.role⟩]

def Module.names (module : Module) : List Name := module.tests.flatMap (Test.names module.suite)

theorem Test.files_eq (suite : String) (test : Test) :
    test.files suite = (test.names suite).map Name.toText := by
  cases given : test.check <;> simp only [files, names, given] <;> rfl

theorem splitOn_fileName (suite case extension : String) :
    (fileName suite case extension).toList.splitOn '.' =
      suite.toList.splitOn '.' ++ case.toList.splitOn '.' ++ extension.toList.splitOn '.' := by
  have joined : (fileName suite case extension).toList =
      suite.toList ++ '.' :: (case.toList ++ '.' :: extension.toList) := by
    simp [fileName]
  unfold List.splitOn
  rw [joined, List.splitOnP_append_cons _ _ (by rfl), List.splitOnP_append_cons _ _ (by rfl),
    List.append_assoc]

theorem eq_of_splitOn {text : String} {piece : List Char}
    (whole : text.toList.splitOn '.' = [piece]) : text.toList = piece := by
  have joined : ['.'].intercalate (text.toList.splitOn '.') = text.toList :=
    List.intercalate_splitOn '.'
  rw [← joined, whole]
  simp [List.intercalate]

/-- A text made from three parts is read as a name in no other way. -/
theorem parse_fileName {suite case extension : String} {name : Name}
    (read : Name.parse (fileName suite case extension) = .ok name) :
    name.suite = suite ∧ name.case = case := by
  obtain ⟨plainSuite, plainCase, written⟩ := Name.parse_eq_ok_iff.mp read
  have pieces := Name.splitOn_toText plainSuite plainCase
  rw [written, splitOn_fileName] at pieces
  obtain ⟨first, more, ofSuite⟩ := List.exists_cons_of_ne_nil
    (List.splitOnP_ne_nil (· == '.') suite.toList)
  obtain ⟨second, further, ofCase⟩ := List.exists_cons_of_ne_nil
    (List.splitOnP_ne_nil (· == '.') case.toList)
  obtain ⟨third, rest, ofExtension⟩ := List.exists_cons_of_ne_nil
    (List.splitOnP_ne_nil (· == '.') extension.toList)
  change suite.toList.splitOn '.' = first :: more at ofSuite
  change case.toList.splitOn '.' = second :: further at ofCase
  change extension.toList.splitOn '.' = third :: rest at ofExtension
  rw [ofSuite, ofCase, ofExtension] at pieces
  -- There are three pieces in all and one at least from each part, so that no part has a second.
  have count := congrArg List.length pieces
  simp only [List.length_append, List.length_cons, List.length_nil] at count
  have single : more = [] ∧ further = [] := by
    constructor <;> exact List.length_eq_zero_iff.mp (by omega)
  obtain ⟨rfl, rfl⟩ := single
  simp only [List.cons_append, List.nil_append, List.cons.injEq] at pieces
  constructor
  · exact String.toList_inj.mp (pieces.1.symm.trans (eq_of_splitOn ofSuite).symm)
  · exact String.toList_inj.mp (pieces.2.1.symm.trans (eq_of_splitOn ofCase).symm)

section

variable {α β ε : Type} {related : α → β → Prop} {first : List α} {second : List β}

theorem exists_right_of_mem (pairs : List.Forall₂ related first second) {value : α}
    (membership : value ∈ first) : ∃ other ∈ second, related value other := by
  induction pairs with
  | nil => cases membership
  | cons head _ inductionHypothesis =>
      rcases List.mem_cons.mp membership with rfl | later
      · exact ⟨_, List.mem_cons_self, head⟩
      · obtain ⟨other, there, holds⟩ := inductionHypothesis later
        exact ⟨other, List.mem_cons_of_mem _ there, holds⟩

theorem exists_left_of_mem (pairs : List.Forall₂ related first second) {other : β}
    (membership : other ∈ second) : ∃ value ∈ first, related value other :=
  exists_right_of_mem pairs.flip membership

theorem map_eq_of_forall₂ {γ : Type} {left : α → γ} {right : β → γ}
    (pairs : List.Forall₂ (fun value other => right other = left value) first second) :
    second.map right = first.map left := by
  rw [← List.forall₂_eq_eq_eq, List.forall₂_map_left_iff, List.forall₂_map_right_iff]
  exact pairs.flip

theorem forall₂_of_mapM {step : α → Except ε β} (made : first.mapM step = .ok second) :
    List.Forall₂ (fun value result => step value = .ok result) first second := by
  induction first generalizing second with
  | nil =>
      cases made
      exact .nil
  | cons value rest inductionHypothesis =>
      rw [List.mapM_cons] at made
      obtain ⟨result, here, others⟩ := bind_eq_ok made
      obtain ⟨results, there, rfl⟩ := bind_pure_eq_ok others
      exact .cons here (inductionHypothesis there)

end

theorem Document.content_eq_ok {document : Document} {role : Role} {text : String}
    (read : document.content role = .ok text) : document.text = some text := by
  unfold content at read
  split at read
  next given =>
    cases read
    exact given
  next _ => cases read

/-- What a test is made from, as the documents of its case. -/
structure Case.Tested (case : Case) (name : String) (test : Test) : Prop where
  case_eq : test.case = name
  source : ∃ document, case.document? .source = some document ∧
    document.text = some test.source ∧ test.path = pathOf document.name
  check : ∃ document text, case.document? test.check.role = some document ∧
    document.text = some text ∧
      (test.check = .lowers text ∨ test.check = .fails (String.ofList (Text.trim text.toList)))
  only : ∀ role document, case.document? role = some document →
    role = .source ∨ role = test.check.role

theorem Case.tested_of_test {case : Case} {suite name : String} {test : Test}
    (made : case.test suite name = .ok test) : case.Tested name test := by
  unfold Case.test at made
  split at made
  next _ => cases made
  next _ => cases made
  next document expectation source expected =>
    obtain ⟨text, read, others⟩ := bind_eq_ok made
    obtain ⟨check, checked, rfl⟩ := bind_pure_eq_ok others
    have origin : ∃ given, case.document? .source = some given ∧ given.text = some text ∧
        pathOf document.name = pathOf given.name :=
      ⟨document, source, Document.content_eq_ok read, rfl⟩
    cases expectation with
    | code given =>
        obtain ⟨code, readCode, rfl⟩ := bind_pure_eq_ok checked
        refine ⟨rfl, origin, ⟨given, code, ?_, Document.content_eq_ok readCode, .inl rfl⟩, ?_⟩
        · simp [document?, Check.role, expected]
        · intro role found filed
          cases role <;> simp_all [document?, Check.role]
    | error given =>
        obtain ⟨message, readMessage, rfl⟩ := bind_pure_eq_ok checked
        refine ⟨rfl, origin, ⟨given, message, ?_, Document.content_eq_ok readMessage, .inr rfl⟩,
          ?_⟩
        · simp [document?, Check.role, expected]
        · intro role found filed
          cases role <;> simp_all [document?, Check.role]

/-- What a module is made from, as a row of the suites. -/
structure Module.Tested (row : String × Table Case) (module : Module) : Prop where
  suite : module.suite = row.1
  mode : ∃ variant, ModeOf module.suite module.mode variant
  tests : List.Forall₂ (fun entry test => Case.Tested entry.2 entry.1 test) row.2 module.tests

theorem exists_modeOf {suite : String} {mode : Mode} (known : Mode.ofName? suite = some mode) :
    ∃ variant, ModeOf suite mode variant := by
  unfold Mode.ofName? at known
  split_ifs at known with generic grouped targeted <;> cases known
  · rw [generic]
    exact ⟨_, .generic⟩
  · rw [grouped]
    exact ⟨_, .grouped⟩
  · rw [targeted]
    exact ⟨_, .targeted⟩

theorem Module.tested_of_ofSuite {row : String × Table Case} {module : Module}
    (made : Module.ofSuite row.1 row.2 = .ok module) : module.Tested row := by
  unfold Module.ofSuite at made
  split at made
  next _ => cases made
  next mode known =>
    obtain ⟨tests, tested, rest⟩ := bind_eq_ok made
    split at rest
    next _ => cases rest
    next _ =>
      cases rest
      exact ⟨rfl, exists_modeOf known, (forall₂_of_mapM tested).imp fun _ _ => Case.tested_of_test⟩

theorem tested_of_modules {suites : Suites} (complete : (modules suites).2 = none) :
    List.Forall₂ (fun row module => Module.Tested row module) suites (modules suites).1 := by
  induction suites with
  | nil => exact .nil
  | cons row rest inductionHypothesis =>
      rw [modules] at complete ⊢
      split at complete
      next _ => cases complete
      next module made => exact .cons (Module.tested_of_ofSuite made) (inductionHypothesis complete)

section

variable {entries : List Entry} {suites : Suites} {made : List Module}

/-- The case and the row that a test was made from. -/
theorem holds_of_test (tested : List.Forall₂ (fun row module => Module.Tested row module) suites
      made) {module : Module} (membership : module ∈ made) {test : Test}
    (member : test ∈ module.tests) :
    ∃ case, suites.Holds module.suite test.case case ∧ case.Tested test.case test := by
  obtain ⟨row, there, build⟩ := exists_left_of_mem tested membership
  obtain ⟨entry, here, built⟩ := exists_left_of_mem build.tests member
  refine ⟨entry.2, ⟨row.2, ?_, ?_⟩, ?_⟩
  · rw [build.suite]
    exact there
  · rw [built.case_eq]
    exact here
  · rw [built.case_eq]
    exact built

theorem test_of_holds (tested : List.Forall₂ (fun row module => Module.Tested row module) suites
      made) {suite name : String} {case : Case} (held : suites.Holds suite name case) :
    ∃ module ∈ made, module.suite = suite ∧
      ∃ test ∈ module.tests, test.case = name ∧ case.Tested name test := by
  obtain ⟨cases, there, here⟩ := held
  obtain ⟨module, membership, build⟩ := exists_right_of_mem tested there
  obtain ⟨test, member, built⟩ := exists_right_of_mem build.tests here
  exact ⟨module, membership, build.suite, test, member, built.case_eq, built⟩

variable (sorts : suites.Sorts entries)
  (tested : List.Forall₂ (fun row module => Module.Tested row module) suites made)

include sorts

theorem contains_of_holds {suite name : String} {case : Case} {role : Role} {document : Document}
    {text : String} (held : suites.Holds suite name case)
    (filed : case.document? role = some document) (given : document.text = some text) :
    .file (Name.toText ⟨suite, name, role⟩) (some text) ∈ entries ∧
      document.name = Name.toText ⟨suite, name, role⟩ := by
  obtain ⟨membership, read⟩ := (sorts.files ⟨suite, name, role⟩ document).mp ⟨case, held, filed⟩
  have written := (Name.parse_eq_ok_iff.mp read).2.2
  rw [given, ← written] at membership
  exact ⟨membership, written.symm⟩

theorem holds_of_entry {entry : Entry} (membership : entry ∈ entries) {name : Name}
    (read : Name.parse entry.name = .ok name) :
    ∃ case document, suites.Holds name.suite name.case case ∧
      case.document? name.role = some document := by
  obtain ⟨text, _, same, _⟩ := sorts.named entry membership
  rw [same] at membership
  obtain ⟨case, held, filed⟩ := (sorts.files name ⟨entry.name, text⟩).mpr ⟨membership, read⟩
  exact ⟨case, _, held, filed⟩

theorem entry_of_holds {suite name : String} {case : Case} {role : Role} {document : Document}
    (held : suites.Holds suite name case) (filed : case.document? role = some document) :
    ∃ entry ∈ entries, Name.parse entry.name = .ok ⟨suite, name, role⟩ := by
  obtain ⟨membership, read⟩ := (sorts.files ⟨suite, name, role⟩ document).mp ⟨case, held, filed⟩
  exact ⟨_, membership, read⟩

theorem exists_fileName_iff (suite case : String) :
    (∃ extension, fileName suite case extension ∈ entries.map Entry.name) ↔
      ∃ entry ∈ entries, ∃ role, Name.parse entry.name = .ok ⟨suite, case, role⟩ := by
  constructor
  · rintro ⟨extension, membership⟩
    obtain ⟨entry, inFolder, same⟩ := List.mem_map.mp membership
    obtain ⟨_, name, _, read⟩ := sorts.named entry inFolder
    have parsed := read
    rw [same] at parsed
    obtain ⟨rfl, rfl⟩ := parse_fileName parsed
    exact ⟨entry, inFolder, name.role, read⟩
  · rintro ⟨entry, inFolder, role, read⟩
    refine ⟨role.extension, List.mem_map.mpr ⟨entry, inFolder, ?_⟩⟩
    exact (Name.parse_eq_ok_iff.mp read).2.2.symm

include tested

theorem mem_names_iff (name : Name) :
    name ∈ made.flatMap Module.names ↔ ∃ entry ∈ entries, Name.parse entry.name = .ok name := by
  constructor
  · intro used
    obtain ⟨module, membership, inModule⟩ := List.mem_flatMap.mp used
    obtain ⟨test, member, inTest⟩ := List.mem_flatMap.mp inModule
    obtain ⟨case, held, build⟩ := holds_of_test tested membership member
    obtain ⟨source, filed, _⟩ := build.source
    obtain ⟨expected, text, checked, _⟩ := build.check
    rcases List.mem_pair.mp inTest with rfl | rfl
    · exact entry_of_holds sorts held filed
    · exact entry_of_holds sorts held checked
  · rintro ⟨entry, membership, read⟩
    obtain ⟨case, document, held, filed⟩ := holds_of_entry sorts membership read
    obtain ⟨module, there, sameSuite, test, here, sameCase, build⟩ := test_of_holds tested held
    refine List.mem_flatMap.mpr ⟨module, there, List.mem_flatMap.mpr ⟨test, here, ?_⟩⟩
    rw [Test.names, sameSuite, sameCase, List.mem_pair]
    rcases build.only _ _ filed with role | role
    · left
      rw [← role]
    · right
      rw [← role]

theorem runs_of_tested {module : Module} (membership : module ∈ made) {test : Test}
    (member : test ∈ module.tests) : test.Runs entries module.suite := by
  obtain ⟨case, held, build⟩ := holds_of_test tested membership member
  obtain ⟨source, filed, given, path⟩ := build.source
  obtain ⟨contained, named⟩ := contains_of_holds sorts held filed given
  obtain ⟨expected, text, checked, there, alternatives⟩ := build.check
  obtain ⟨holds, _⟩ := contains_of_holds sorts held checked there
  -- A second expectation would be another document of the case, and there is none.
  have absent : ∀ role, role ≠ .source → role ≠ test.check.role →
      Name.toText ⟨module.suite, test.case, role⟩ ∉ entries.map Entry.name := by
    intro role notSource notCheck present
    obtain ⟨entry, inFolder, same⟩ := List.mem_map.mp present
    obtain ⟨_, _, read⟩ := entry_of_holds sorts held filed
    obtain ⟨suite, name, _⟩ := Name.parse_eq_ok_iff.mp read
    have readToo : Name.parse entry.name = .ok ⟨module.suite, test.case, role⟩ :=
      Name.parse_eq_ok_iff.mpr ⟨suite, name, same.symm⟩
    obtain ⟨other, document, heldToo, filedToo⟩ := holds_of_entry sorts inFolder readToo
    cases sorts.wellFormed.unique held heldToo
    rcases build.only role document filedToo with source | check
    · exact notSource source
    · exact notCheck check
  refine ⟨by rw [path, named]; rfl, contained, ?_⟩
  rcases alternatives with lowers | fails
  · rw [lowers] at holds absent ⊢
    exact .lowers holds (absent .error (by decide) (by simp [Check.role]))
  · rw [fails] at holds absent ⊢
    have front := Side.first.strips_strip text.toList
    have back := Side.last.strips_strip (Side.first.strip text.toList)
    exact .fails holds front (by rwa [String.toList_ofList])
      (absent .code (by decide) (by simp [Check.role]))

theorem ascending_suites : (made.map Module.suite).Pairwise (· < ·) := by
  have names : made.map Module.suite = suites.map Prod.fst :=
    map_eq_of_forall₂ (tested.imp fun _ _ build => build.suite)
  rw [names]
  exact sorts.wellFormed.ascending

theorem ascending_cases {module : Module} (membership : module ∈ made) :
    (module.tests.map Test.case).Pairwise (· < ·) := by
  obtain ⟨row, there, build⟩ := exists_left_of_mem tested membership
  have names : module.tests.map Test.case = row.2.map Prod.fst :=
    map_eq_of_forall₂ (build.tests.imp fun _ _ built => built.case_eq)
  rw [names]
  exact (sorts.wellFormed.cases row there).1

theorem mem_suites_iff (suite : String) :
    suite ∈ made.map Module.suite ↔
      ∃ case extension, fileName suite case extension ∈ entries.map Entry.name := by
  simp only [exists_fileName_iff sorts]
  constructor
  · intro membership
    obtain ⟨module, there, rfl⟩ := List.mem_map.mp membership
    obtain ⟨row, inSuites, build⟩ := exists_left_of_mem tested there
    obtain ⟨entry, inRow⟩ := List.exists_mem_of_ne_nil _ (sorts.wellFormed.cases row inSuites).2
    have held : suites.Holds module.suite entry.1 entry.2 := by
      rw [build.suite]
      exact ⟨row.2, inSuites, inRow⟩
    obtain ⟨role, document, filed⟩ := sorts.inhabited _ _ _ held
    obtain ⟨file, inFolder, read⟩ := entry_of_holds sorts held filed
    exact ⟨_, file, inFolder, _, read⟩
  · rintro ⟨case, entry, inFolder, role, read⟩
    obtain ⟨found, document, held, filed⟩ := holds_of_entry sorts inFolder read
    obtain ⟨module, there, same, _⟩ := test_of_holds tested held
    exact List.mem_map.mpr ⟨module, there, same⟩

theorem mem_cases_iff {module : Module} (membership : module ∈ made) (name : String) :
    name ∈ module.tests.map Test.case ↔
      ∃ extension, fileName module.suite name extension ∈ entries.map Entry.name := by
  rw [exists_fileName_iff sorts]
  constructor
  · intro member
    obtain ⟨test, here, rfl⟩ := List.mem_map.mp member
    obtain ⟨case, held, build⟩ := holds_of_test tested membership here
    obtain ⟨source, filed, _⟩ := build.source
    obtain ⟨entry, inFolder, read⟩ := entry_of_holds sorts held filed
    exact ⟨entry, inFolder, .source, read⟩
  · rintro ⟨entry, inFolder, role, read⟩
    obtain ⟨case, document, held, filed⟩ := holds_of_entry sorts inFolder read
    obtain ⟨other, there, same, test, here, rfl, _⟩ := test_of_holds tested held
    have distinct : (made.map Module.suite).Nodup := (ascending_suites sorts tested).imp ne_of_lt
    cases List.inj_on_of_nodup_map distinct there membership same
    exact List.mem_map.mpr ⟨test, here, rfl⟩

theorem nodup_names : (made.flatMap Module.names).Nodup := by
  have ofSuite : ∀ module : Module, ∀ name ∈ module.names, name.suite = module.suite := by
    intro module name used
    obtain ⟨test, _, inTest⟩ := List.mem_flatMap.mp used
    rcases List.mem_pair.mp inTest with rfl | rfl <;> rfl
  have ofCase : ∀ (suite : String) (test : Test), ∀ name ∈ test.names suite,
      name.case = test.case := by
    intro suite test name used
    rcases List.mem_pair.mp used with rfl | rfl <;> rfl
  refine List.nodup_flatMap.mpr ⟨?_, ?_⟩
  · intro module membership
    refine List.nodup_flatMap.mpr ⟨?_, ?_⟩
    · intro test _
      cases given : test.check <;> simp [Test.names, Check.role, given]
    · refine (List.pairwise_map.mp (ascending_cases sorts tested membership)).imp ?_
      intro first second earlier name inFirst inSecond
      rw [← ofCase _ _ _ inFirst, ← ofCase _ _ _ inSecond] at earlier
      exact lt_irrefl _ earlier
  · refine (List.pairwise_map.mp (ascending_suites sorts tested)).imp ?_
    intro first second earlier name inFirst inSecond
    rw [← ofSuite _ _ inFirst, ← ofSuite _ _ inSecond] at earlier
    exact lt_irrefl _ earlier

theorem perm_files (distinct : (entries.map Entry.name).Nodup) :
    ((made.flatMap Module.names).map Name.toText).Perm (entries.map Entry.name) := by
  have read : ∀ name ∈ made.flatMap Module.names, Name.parse name.toText = .ok name := by
    intro name used
    obtain ⟨entry, _, parsed⟩ := (mem_names_iff sorts tested name).mp used
    rw [(Name.parse_eq_ok_iff.mp parsed).2.2]
    exact parsed
  refine (List.perm_ext_iff_of_nodup ?_ distinct).mpr ?_
  · refine (nodup_names sorts tested).map_on ?_
    intro first inFirst second inSecond same
    have both := read first inFirst
    rw [same, read second inSecond] at both
    exact (Except.ok.inj both).symm
  · intro text
    constructor
    · intro membership
      obtain ⟨name, used, rfl⟩ := List.mem_map.mp membership
      obtain ⟨entry, inFolder, parsed⟩ := (mem_names_iff sorts tested name).mp used
      exact List.mem_map.mpr ⟨entry, inFolder, (Name.parse_eq_ok_iff.mp parsed).2.2.symm⟩
    · intro membership
      obtain ⟨entry, inFolder, rfl⟩ := List.mem_map.mp membership
      obtain ⟨_, name, _, parsed⟩ := sorts.named entry inFolder
      have used := (mem_names_iff sorts tested name).mpr ⟨entry, inFolder, parsed⟩
      exact List.mem_map.mpr ⟨name, used, (Name.parse_eq_ok_iff.mp parsed).2.2⟩

theorem covers_of_tested (distinct : (entries.map Entry.name).Nodup) : Covers entries made where
  ascending := ascending_suites sorts tested
  suites := mem_suites_iff sorts tested
  files := by
    have files (module : Module) : module.tests.flatMap (Test.files module.suite) =
        module.names.map Name.toText := by
      rw [Module.names, List.map_flatMap]
      exact List.flatMap_congr fun test _ => test.files_eq module.suite
    simp only [files, ← List.map_flatMap]
    exact perm_files sorts tested distinct
  each module membership :=
    { ascending := ascending_cases sorts tested membership
      cases := mem_cases_iff sorts tested membership
      tests := fun _ member => runs_of_tested sorts tested membership member }

end

/-- No fixture is lost or mixed up. Where the generator completes, it has written a module for
each suite and a test for each case, in ascending order, and every test is made from the files
of its case, so that each file of the folder is used by one test. The file holds the text of these
modules and nothing else, with literals that stand for one text only. -/
theorem generate_covers_fixtures (entries : List Entry)
    (distinct : (entries.map Entry.name).Nodup)
    (completes : (generate (some entries)).refusal = none) :
    ∃ (modules : List Module) (texts : List String),
      (generate (some entries)).written = some (String.join texts) ∧
      List.Forall₂ Module.WrittenAs modules texts ∧ Covers entries modules ∧
      ∀ literal text other, LiteralOf text literal → LiteralOf other literal → text = other := by
  unfold generate at completes ⊢
  dsimp only at completes ⊢
  split at completes
  next _ => cases completes
  next suites discovered =>
    have sorts := Suites.sorts_of_discover distinct discovered
    have tested := tested_of_modules completes
    refine ⟨_, _, rfl, ?_, covers_of_tested sorts tested distinct, fun _ _ _ => LiteralOf.unique⟩
    rw [List.forall₂_map_right_iff, List.forall₂_same]
    intro module membership
    obtain ⟨_, _, build⟩ := exists_left_of_mem tested membership
    obtain ⟨variant, named⟩ := build.mode
    exact Module.writtenAs_toText named

/-- A folder with two cases of one suite and a failing case of another, listed in no order. -/
def twoSuites : List Entry :=
  [.file "targeted.tag.err" (some " Namespace\n"), .file "generic.b.jsx" (some "<b/>;"),
    .file "generic.a.js" (some "a;"), .file "targeted.tag.jsx" (some "<a:b/>;"),
    .file "generic.b.js" (some "JSX.tag(\"b\", null);"), .file "generic.a.jsx" (some "a;")]

theorem generate_covers_two_suites :
    (twoSuites.map Entry.name).Nodup ∧ (generate (some twoSuites)).refusal = none ∧
      (∃ (modules : List Module) (texts : List String),
        (generate (some twoSuites)).written = some (String.join texts) ∧
        List.Forall₂ Module.WrittenAs modules texts ∧ Covers twoSuites modules) ∧
      (generate (some twoSuites)).written = some (inLines
        ["#[cfg(test)]",
          "mod generic \x7b",
          "    #[test]",
          "    fn a() \x7b",
          "        crate::harness::assert_lowers(",
          "            jsx_transpiler_cli::Mode::Generic,",
          "            \"./tests/generic.a.jsx\",",
          "            \"a;\",",
          "            \"a;\",",
          "        );",
          "    \x7d",
          "    #[test]",
          "    fn b() \x7b",
          "        crate::harness::assert_lowers(",
          "            jsx_transpiler_cli::Mode::Generic,",
          "            \"./tests/generic.b.jsx\",",
          "            \"<b/>;\",",
          "            \"JSX.tag(\\\"b\\\", null);\",",
          "        );",
          "    \x7d",
          "\x7d",
          "#[cfg(test)]",
          "mod targeted \x7b",
          "    #[test]",
          "    fn tag() \x7b",
          "        crate::harness::assert_fails(",
          "            jsx_transpiler_cli::Mode::Targeted,",
          "            \"./tests/targeted.tag.jsx\",",
          "            \"<a:b/>;\",",
          "            \"Namespace\",",
          "        );",
          "    \x7d",
          "\x7d"]) := by
  have distinct : (twoSuites.map Entry.name).Nodup := by decide
  have completes : (generate (some twoSuites)).refusal = none := by decide +kernel
  obtain ⟨modules, texts, written, each, covers, _⟩ :=
    generate_covers_fixtures twoSuites distinct completes
  exact ⟨distinct, completes, ⟨modules, texts, written, each, covers⟩, by decide +kernel⟩

end JsxLowering.Fixture
