import Mathlib.Data.List.Basic
import JsxLowering.Fixture.Tests
import JsxLowering.Proofs.Numeral

set_option autoImplicit false

/-!
The text of the tests. A suite is written as a module with the tests of its cases, and a test as a
call of the function that checks it, with the mode of the suite and three literals. Literals are
escaped, and what they stand for is the text that they were written for, and no other.
-/

namespace JsxLowering.Fixture

/-- The escapes of one character after the backslash, each with what it stands for. -/
def escapes : List (Char × Char) :=
  [('0', '\x00'), ('t', '\t'), ('r', '\r'), ('n', '\n'), ('\\', '\\'), ('"', '"')]

/-- What stands between the quotes of a literal, and the text that it stands for. -/
inductive ReadsAs : List Char → List Char → Prop where
  | nil : ReadsAs [] []
  | plain {c : Char} {written text : List Char} (unquoted : c ≠ '"') (unescaped : c ≠ '\\')
      (visible : c ≠ '\r') (others : ReadsAs written text) : ReadsAs (c :: written) (c :: text)
  | escape {mark c : Char} {written text : List Char} (known : (mark, c) ∈ escapes)
      (others : ReadsAs written text) : ReadsAs ('\\' :: mark :: written) (c :: text)
  | byte {c high low : Char} {written text : List Char}
      (numeral : Text.Numeral 16 [high, low] c.toNat) (ascii : c.toNat < 128)
      (others : ReadsAs written text) :
      ReadsAs ('\\' :: 'x' :: high :: low :: written) (c :: text)
  | unicode {c : Char} {digits written text : List Char}
      (numeral : Text.Numeral 16 digits c.toNat) (others : ReadsAs written text) :
      ReadsAs ('\\' :: 'u' :: '\x7b' :: (digits ++ '\x7d' :: written)) (c :: text)

/-- The literal for a text. -/
def LiteralOf (text literal : String) : Prop :=
  ∃ written, literal = "\"" ++ String.ofList written ++ "\"" ∧ ReadsAs written text.toList

/-- The mode of a suite, and what it is called in the tests. -/
inductive ModeOf : String → Mode → String → Prop where
  | generic : ModeOf "generic" .generic "Generic"
  | grouped : ModeOf "grouped" .grouped "Grouped"
  | targeted : ModeOf "targeted" .targeted "Targeted"

/-- The function that checks, and what it expects. -/
inductive Check.CalledAs : Check → String → String → Prop where
  | lowers (code : String) : CalledAs (.lowers code) "assert_lowers" code
  | fails (message : String) : CalledAs (.fails message) "assert_fails" message

def inLines (lines : List String) : String := String.join (lines.map fun line => line ++ "\n")

inductive Test.WrittenAs (variant : String) (test : Test) : String → Prop where
  | intro {function expected path source result : String}
      (called : test.check.CalledAs function expected) (path_eq : LiteralOf test.path path)
      (source_eq : LiteralOf test.source source) (result_eq : LiteralOf expected result) :
      WrittenAs variant test (inLines
        ["    #[test]",
          "    fn " ++ test.case ++ "() \x7b",
          "        crate::harness::" ++ function ++ "(",
          "            jsx_transpiler_cli::Mode::" ++ variant ++ ",",
          "            " ++ path ++ ",",
          "            " ++ source ++ ",",
          "            " ++ result ++ ",",
          "        );",
          "    \x7d"])

inductive Module.WrittenAs (module : Module) : String → Prop where
  | intro {variant : String} {tests : List String}
      (named : ModeOf module.suite module.mode variant)
      (each : List.Forall₂ (Test.WrittenAs variant) module.tests tests) :
      WrittenAs module
        (inLines ["#[cfg(test)]", "mod " ++ module.suite ++ " \x7b"] ++ String.join tests ++
          inLines ["\x7d"])

namespace ReadsAs

theorem escapeChar_append {written text : List Char} (others : ReadsAs written text) (c : Char) :
    ReadsAs (Text.escapeChar c ++ written) (c :: text) := by
  unfold Text.escapeChar
  split_ifs with null tab return_ newline special printable
  · obtain rfl := beq_iff_eq.mp null
    exact .escape (by decide) others
  · obtain rfl := beq_iff_eq.mp tab
    exact .escape (by decide) others
  · obtain rfl := beq_iff_eq.mp return_
    exact .escape (by decide) others
  · obtain rfl := beq_iff_eq.mp newline
    exact .escape (by decide) others
  · rcases Bool.or_eq_true_iff.mp special with backslash | quote
    · obtain rfl := beq_iff_eq.mp backslash
      exact .escape (by decide) others
    · obtain rfl := beq_iff_eq.mp quote
      exact .escape (by decide) others
  · simp only [Bool.or_eq_true, beq_iff_eq, not_or] at special
    exact .plain special.2 special.1 (by simpa using return_) others
  · have numeral : Text.Numeral 16 (Nat.toDigits 16 c.toNat) c.toNat :=
      Text.numeral_toDigits (by decide) c.toNat
    simpa [Text.hexDigits] using ReadsAs.unicode numeral others

theorem literalChars (text : List Char) : ReadsAs (Fixture.literalChars text) text := by
  induction text with
  | nil => exact .nil
  | cons c rest inductionHypothesis =>
      rw [Fixture.literalChars]
      split_ifs with inFull
      · obtain rfl := beq_iff_eq.mp (Bool.and_eq_true_iff.mp inFull).1
        refine .byte ?_ (by decide) inductionHypothesis
        exact ⟨[0, 0], by decide, by decide, .cons (.inl rfl) (.cons (.inl rfl) .nil), rfl⟩
      · exact inductionHypothesis.escapeChar_append c

theorem mark_of_escape {mark c : Char} (known : (mark, c) ∈ escapes) : mark ≠ 'x' ∧ mark ≠ 'u' := by
  simp only [escapes, List.mem_cons, Prod.mk.injEq, List.not_mem_nil, or_false] at known
  rcases known with known | known | known | known | known | known <;>
    obtain ⟨rfl, _⟩ := known <;> decide

theorem append_cons_inj {mark : Char} {front other back rest : List Char} (first : mark ∉ front)
    (firstToo : mark ∉ other) (same : front ++ mark :: back = other ++ mark :: rest) :
    front = other ∧ back = rest := by
  rcases List.append_eq_append_iff.mp same with ⟨gap, longer, left⟩ | ⟨gap, longer, left⟩
  · cases gap with
    | nil => simp_all
    | cons c gap =>
        obtain rfl := (List.cons.inj left).1
        simp [longer] at firstToo
  · cases gap with
    | nil => simp_all
    | cons c gap =>
        obtain rfl := (List.cons.inj left).1
        simp [longer] at first

theorem brace_notMem {digits : List Char} {number : Nat}
    (numeral : Text.Numeral 16 digits number) : '\x7d' ∉ digits :=
  Text.notMem_of_number? (numeral.number?_eq (Nat.le_refl 16)) rfl

/-- A literal has one meaning. -/
theorem unique {written text other : List Char} (read : ReadsAs written text)
    (again : ReadsAs written other) : text = other := by
  induction read generalizing other with
  | nil =>
      cases again
      rfl
  | plain unquoted unescaped visible _ inductionHypothesis =>
      cases again with
      | plain _ _ _ others => rw [inductionHypothesis others]
      | _ => exact absurd rfl unescaped
  | @escape mark c _ _ known _ inductionHypothesis =>
      cases again with
      | plain _ unescaped => exact absurd rfl unescaped
      | escape knownToo others =>
          have same : ∀ first ∈ escapes, ∀ second ∈ escapes,
              first.1 = second.1 → first = second := by decide
          have pair := same _ known _ knownToo rfl
          rw [inductionHypothesis others, (Prod.mk.inj pair).2]
      | byte => exact absurd rfl (mark_of_escape known).1
      | unicode => exact absurd rfl (mark_of_escape known).2
  | byte numeral _ _ inductionHypothesis =>
      cases again with
      | plain _ unescaped => exact absurd rfl unescaped
      | escape known => exact absurd rfl (mark_of_escape known).1
      | byte numeralToo _ others =>
          rw [inductionHypothesis others, Char.toNat_inj.mp (numeral.unique numeralToo (by decide))]
  | unicode numeral _ inductionHypothesis =>
      generalize shape : '\\' :: 'u' :: '\x7b' :: _ = given at again
      cases again with
      | nil => cases shape
      | plain _ unescaped => exact absurd (List.cons.inj shape).1.symm unescaped
      | escape known =>
          exact absurd (List.cons.inj (List.cons.inj shape).2).1.symm (mark_of_escape known).2
      | byte => cases (List.cons.inj (List.cons.inj shape).2).1
      | unicode numeralToo others =>
          have bodies := (List.cons.inj (List.cons.inj (List.cons.inj shape).2).2).2
          obtain ⟨rfl, rfl⟩ := append_cons_inj (brace_notMem numeral) (brace_notMem numeralToo)
            bodies
          rw [inductionHypothesis others, Char.toNat_inj.mp (numeral.unique numeralToo (by decide))]

end ReadsAs

theorem literalOf_literal (text : String) : LiteralOf text (literal text) :=
  ⟨_, rfl, .literalChars text.toList⟩

theorem LiteralOf.unique {text other literal : String} (given : LiteralOf text literal)
    (again : LiteralOf other literal) : text = other := by
  obtain ⟨written, rfl, read⟩ := given
  obtain ⟨writtenToo, same, readToo⟩ := again
  have equal : written = writtenToo := by simpa [← String.toList_inj] using same
  rw [← equal] at readToo
  exact String.toList_inj.mp (read.unique readToo)

theorem inLines_append (lines others : List String) :
    inLines (lines ++ others) = inLines lines ++ inLines others := by
  simp [inLines]

theorem indented_eq (level : Nat) (line : String) :
    indented level line = inLines [String.ofList (List.replicate (4 * level) ' ') ++ line] := by
  simp [indented, inLines]

theorem Test.writtenAs_toText {suite variant : String} {mode : Mode}
    (named : ModeOf suite mode variant) (test : Test) :
    test.WrittenAs variant (test.toText mode) := by
  have title : mode.title = variant := by cases named <;> rfl
  have called : test.check.CalledAs test.check.function test.check.expected := by
    cases test.check with
    | lowers code => exact .lowers code
    | fails message => exact .fails message
  have written : test.WrittenAs variant _ := .intro called (literalOf_literal test.path)
    (literalOf_literal test.source) (literalOf_literal test.check.expected)
  convert written using 1
  rw [toText, title]
  have once : String.ofList (List.replicate (4 * 1) ' ') = "    " := rfl
  have twice : String.ofList (List.replicate (4 * 2) ' ') = "        " := rfl
  have thrice : String.ofList (List.replicate (4 * 3) ' ') = "            " := rfl
  simp only [indented_eq, ← inLines_append, List.cons_append, List.nil_append, once, twice, thrice,
    ← String.append_assoc, String.reduceAppend]

theorem Module.writtenAs_toText {module : Module} {variant : String}
    (named : ModeOf module.suite module.mode variant) : module.WrittenAs module.toText := by
  have tests : List.Forall₂ (Test.WrittenAs variant) module.tests
      (module.tests.map fun test => test.toText module.mode) :=
    List.forall₂_map_right_iff.mpr (List.forall₂_same.mpr fun test _ =>
      test.writtenAs_toText named)
  have written : module.WrittenAs _ := .intro named tests
  convert written using 1
  have flush : String.ofList (List.replicate (4 * 0) ' ') = "" := rfl
  simp only [toText, indented_eq, flush, String.empty_append, ← inLines_append, List.cons_append,
    List.nil_append]

end JsxLowering.Fixture
