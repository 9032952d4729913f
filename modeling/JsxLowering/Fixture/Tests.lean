import JsxLowering.Fixture.Suite
import JsxLowering.Options

set_option autoImplicit false

/-!
Writing tests from fixtures. Every suite becomes a module and every case a test in it.
A suite is written when all of it is known to be in order, so what has been written
before a refusal is whole.
-/

namespace JsxLowering.Fixture

/-- The words that cannot name a test. -/
def reservedCases : List String :=
  ["_", "abstract", "as", "async", "await", "become", "box", "break", "const", "continue", "crate",
    "do", "dyn", "else", "enum", "extern", "false", "final", "fn", "for", "if", "impl", "in", "let",
    "loop", "macro", "match", "mod", "move", "mut", "override", "priv", "pub", "ref", "return",
    "Self", "self", "static", "struct", "super", "trait", "true", "try", "type", "typeof", "unsafe",
    "unsized", "use", "virtual", "where", "while", "yield"]

inductive Check where
  | lowers (code : String)
  | fails (message : String)
  deriving DecidableEq

structure Test where
  case : String
  path : String
  source : String
  check : Check
  deriving DecidableEq

def Document.content (document : Document) (role : Role) : Except Refusal String :=
  match document.text with
  | some text => .ok text
  | none => .error (.unreadable role document.name)

/-- What an expectation checks. Blanks around the text of an error do not count. -/
def Expectation.check : Expectation → Except Refusal Check
  | code document => do return .lowers (← document.content .code)
  | error document => do
      return .fails (String.ofList (Text.trim (← document.content .error).toList))

def Case.test (case : Case) (suite name : String) : Except Refusal Test :=
  match case.source, case.expectation with
  | none, _ => .error (.noSource suite name)
  | some _, none => .error (.noExpectation suite name)
  | some document, some expectation => do
      let source ← document.content .source
      return ⟨name, pathOf document.name, source, ← expectation.check⟩

structure Module where
  suite : String
  mode : Mode
  tests : List Test
  deriving DecidableEq

def Module.ofSuite (suite : String) (cases : Table Case) : Except Refusal Module :=
  match Mode.ofName? suite with
  | none => .error (.unknownSuite suite)
  | some mode => do
      let tests ← cases.mapM fun entry => entry.2.test suite entry.1
      match cases.find? fun entry => reservedCases.contains entry.1 with
      | some entry => throw (.reservedCase entry.1)
      | none => return ⟨suite, mode, tests⟩

/-- The characters of a literal. A null before an octal digit is written in full. -/
def literalChars : List Char → List Char
  | [] => []
  | c :: rest =>
      (if c == '\x00' && rest.head?.any fun d => '0' ≤ d && d ≤ '7' then ['\\', 'x', '0', '0']
        else Text.escapeChar c) ++ literalChars rest

def literal (text : String) : String := "\"" ++ String.ofList (literalChars text.toList) ++ "\""

def indented (level : Nat) (line : String) : String :=
  String.ofList (List.replicate (4 * level) ' ') ++ line ++ "\n"

namespace Check

def function : Check → String
  | lowers _ => "assert_lowers"
  | fails _ => "assert_fails"

def expected : Check → String
  | lowers code => code
  | fails message => message

end Check

def Test.toText (test : Test) (mode : Mode) : String :=
  indented 1 "#[test]" ++
  indented 1 ("fn " ++ test.case ++ "() \x7b") ++
  indented 2 ("crate::harness::" ++ test.check.function ++ "(") ++
  indented 3 ("jsx_transpiler_cli::Mode::" ++ mode.title ++ ",") ++
  indented 3 (literal test.path ++ ",") ++
  indented 3 (literal test.source ++ ",") ++
  indented 3 (literal test.check.expected ++ ",") ++
  indented 2 ");" ++
  indented 1 "\x7d"

def Module.toText (module : Module) : String :=
  indented 0 "#[cfg(test)]" ++
  indented 0 ("mod " ++ module.suite ++ " \x7b") ++
  String.join (module.tests.map fun test => test.toText module.mode) ++
  indented 0 "\x7d"

/-- What comes of writing tests: what was written, if the file was made, and the refusal that
ended it. -/
structure Outcome where
  written : Option String
  refusal : Option Refusal
  deriving DecidableEq

/-- The modules of the suites up to the first that is refused. -/
def modules : Suites → List Module × Option Refusal
  | [] => ([], none)
  | (suite, cases) :: rest =>
      match Module.ofSuite suite cases with
      | .error refusal => ([], some refusal)
      | .ok module =>
          let others := modules rest
          (module :: others.1, others.2)

/-- Writes the tests for a folder of fixtures, if there is one. -/
def generate (entries : Option (List Entry)) : Outcome :=
  match entries with
  | none => ⟨none, some .noFolder⟩
  | some entries =>
      match Suites.discover entries with
      | .error refusal => ⟨none, some refusal⟩
      | .ok suites =>
          let result := modules suites
          ⟨some (String.join (result.1.map Module.toText)), result.2⟩

namespace Outcome

def status (outcome : Outcome) : Nat := if outcome.refusal.isSome then 101 else 0

end Outcome

/-- What the generator says first: which files its result depends on. -/
def dependencies : String :=
  "cargo:rerun-if-changed=tests/\ncargo:rerun-if-changed=build.rs\n"

end JsxLowering.Fixture
