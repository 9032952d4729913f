import JsxLowering.Text.Blank
import JsxLowering.Text.CodeRange

set_option autoImplicit false

/-!
The names of fixture files. A name has three parts with dots between them: the suite,
the case, and what the file is in the case.
-/

namespace JsxLowering.Fixture

inductive Role where
  | source
  | code
  /-- Text that one of the errors is to hold. -/
  | error
  deriving DecidableEq

inductive Refusal where
  | noFolder
  | folderInside (name : String)
  | wrongShape (name : String)
  | wrongSuite (suite : String)
  | wrongCase (case : String)
  | wrongRole (name : String)
  | severalExpectations (suite case : String)
  | unknownSuite (suite : String)
  | noSource (suite case : String)
  | noExpectation (suite case : String)
  | unreadable (role : Role) (name : String)
  | reservedCase (case : String)
  deriving DecidableEq

def pathOf (name : String) : String := "./tests/" ++ name

namespace Refusal

def message : Refusal → String
  | noFolder =>
      "called `Result::unwrap()` on an `Err` value: " ++
        "Os \x7b code: 2, kind: NotFound, message: \"No such file or directory\" \x7d"
  | folderInside name => "Directories are not allowed in the tests/ folder: " ++ pathOf name
  | wrongShape name =>
      "Fixture filename does not match pattern <mode>.<case>.<jsx|js|err>: " ++ name
  | wrongSuite suite => "Mode name is not a valid Rust identifier: " ++ suite
  | wrongCase case => "Case name is not a valid Rust identifier: " ++ case
  | wrongRole name => "Invalid file in tests/ folder: " ++ name
  | severalExpectations suite case =>
      "Case '" ++ suite ++ "." ++ case ++ "' has more than one expectation"
  | unknownSuite suite => "Unknown lowering mode: " ++ suite
  | noSource suite case => "Case '" ++ suite ++ "." ++ case ++ "' has no .jsx source"
  | noExpectation suite case =>
      "Case '" ++ suite ++ "." ++ case ++ "' has neither a .js nor an .err expectation"
  | unreadable .source name => "Failed to read JSX fixture file: " ++ pathOf name
  | unreadable .code name => "Failed to read JS expectation file: " ++ pathOf name
  | unreadable .error name => "Failed to read error expectation file: " ++ pathOf name
  | reservedCase case =>
      "called `Result::unwrap()` on an `Err` value: " ++
        "Error(\"expected identifier, found keyword `" ++ case ++ "`\")"

end Refusal

namespace Role

def ofExtension? (extension : String) : Option Role :=
  if extension = "jsx" then some source
  else if extension = "js" then some code
  else if extension = "err" then some error
  else none

end Role

/-- Whether a name can be that of a suite or a case: ASCII letters, digits and underscores, with
no digit first. -/
def isPlainName (name : String) : Bool :=
  match name.toList with
  | [] => false
  | first :: rest =>
      (Text.isAsciiLetter first || first == '_') &&
        rest.all fun c => Text.isAsciiLetter c || Text.isAsciiDigit c || c == '_'

structure Name where
  suite : String
  case : String
  role : Role
  deriving DecidableEq

namespace Name

/-- Reads a name. The suite is judged before the case, and the case before the role. -/
def parse (name : String) : Except Refusal Name :=
  match (Text.pieces (· == '.') name.toList).map String.ofList with
  | [suite, case, extension] =>
      if !isPlainName suite then .error (.wrongSuite suite)
      else if !isPlainName case then .error (.wrongCase case)
      else
        match Role.ofExtension? extension with
        | some role => .ok ⟨suite, case, role⟩
        | none => .error (.wrongRole name)
  | _ => .error (.wrongShape name)

end Name

end JsxLowering.Fixture
