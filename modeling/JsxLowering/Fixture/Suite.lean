import JsxLowering.Fixture.Name

set_option autoImplicit false

/-!
Sorting fixture files into suites of cases. Suites and cases stand in the order of
their names, so what is found does not depend on the order of the folder's listing.
-/

namespace JsxLowering.Fixture

inductive Entry where
  | folder (name : String)
  /-- A file with its text, if its bytes are text. -/
  | file (name : String) (text : Option String)
  deriving DecidableEq

def Entry.name : Entry → String
  | folder name => name
  | file name _ => name

structure Document where
  name : String
  text : Option String
  deriving DecidableEq

inductive Expectation where
  | code (document : Document)
  | error (document : Document)
  deriving DecidableEq

structure Case where
  source : Option Document
  expectation : Option Expectation
  deriving DecidableEq

namespace Case

def empty : Case := ⟨none, none⟩

/-- Adds a file to a case. There is one expectation at most. -/
def add (case : Case) (name : Name) (document : Document) : Except Refusal Case :=
  match name.role with
  | .source => .ok { case with source := some document }
  | .code =>
      if case.expectation.isSome then .error (.severalExpectations name.suite name.case)
      else .ok { case with expectation := some (.code document) }
  | .error =>
      if case.expectation.isSome then .error (.severalExpectations name.suite name.case)
      else .ok { case with expectation := some (.error document) }

end Case

abbrev Table (α : Type) := List (String × α)

namespace Table

variable {α ε : Type}

/-- Changes the value under a name, which may not be there yet. -/
def alter (key : String) (change : Option α → Except ε α) : Table α → Except ε (Table α)
  | [] => do return [(key, ← change none)]
  | (name, value) :: rest =>
      if key = name then do return (name, ← change (some value)) :: rest
      else if key < name then do return (key, ← change none) :: (name, value) :: rest
      else do return (name, value) :: (← alter key change rest)

end Table

abbrev Suites := Table (Table Case)

namespace Suites

def add (suites : Suites) (name : Name) (document : Document) : Except Refusal Suites :=
  Table.alter name.suite
    (fun cases =>
      Table.alter name.case (fun case => (case.getD .empty).add name document) (cases.getD []))
    suites

def addEntry (suites : Suites) : Entry → Except Refusal Suites
  | .folder name => .error (.folderInside name)
  | .file name text => do suites.add (← Name.parse name) ⟨name, text⟩

def discover (entries : List Entry) : Except Refusal Suites := entries.foldlM addEntry []

end Suites

end JsxLowering.Fixture
