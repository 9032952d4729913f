import JsxLowering.Span
import JsxLowering.Text.Line

set_option autoImplicit false

/-!
What is wrong with a program, in a form that can be reported.
-/

namespace JsxLowering

inductive Severity where
  | error
  | warning
  | advice
  deriving DecidableEq

structure Diagnostic where
  severity : Severity
  message : String
  help : Option String
  labels : List Span
  deriving DecidableEq

namespace Diagnostic

/-- An error at one place, with no advice. -/
def error (message : String) (span : Span) : Diagnostic := ⟨.error, message, none, [span]⟩

/-- How wide the first line of a report is. -/
def reportWidth : Nat := 74

/-- The first line of the report on a diagnostic. -/
def headline (diagnostic : Diagnostic) : String :=
  Text.firstLine reportWidth diagnostic.message

/-- A namespaced tag where the tag itself would have to be called. -/
def namespacedTag (span : Span) : Diagnostic :=
  ⟨.error, "Namespace tags are not supported",
    some "use a member tag such as `<svg.rect>`, or the generic lowering mode", [span]⟩

end Diagnostic

end JsxLowering
