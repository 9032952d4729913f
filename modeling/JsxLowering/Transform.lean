import JsxLowering.Lowering.Header
import JsxLowering.Lowering.Walk

set_option autoImplicit false

/-!
Lowering whole programs. The targets come from the options, and in targeted mode
from the program's header first. A program with a diagnostic has no result.
-/

namespace JsxLowering

/-- A program without markup, and how many elements and fragments it had. -/
structure Lowered where
  program : Program
  count : Nat

/-- What comes of lowering a program. The log is kept in either case. -/
structure Transformation where
  outcome : Except (List Diagnostic) Lowered
  log : List Event

/-- The annotations that count: only targeted lowering reads the header. -/
def effectiveAnnotations (options : Options) (program : Program) : Header.Annotations :=
  match options.mode with
  | .targeted => Header.annotations program
  | _ => .empty

def headerWarnings (options : Options) (program : Program) : List Event :=
  match options.mode with
  | .targeted => Header.warnings program
  | _ => []

def Targets.ofOptions (options : Options) (annotations : Header.Annotations) : Targets where
  mode := options.mode
  tagCall := .ofPath options.tagCall
  dom := .ofPath (annotations.jsx.getD options.dom)
  components := (annotations.components.or options.components).map .ofPath

def overrideEvents (annotations : Header.Annotations) : List Event :=
  (annotations.jsx.map Event.domOverridden).toList ++
    (annotations.components.map Event.componentsOverridden).toList

/-- Lowers all markup of a program. -/
def transform (options : Options) (program : Program) : Transformation :=
  let annotations := effectiveAnnotations options program
  let report := lowerStatements (.ofOptions options annotations) program.body
  { outcome :=
      if report.diagnostics.isEmpty then
        .ok ⟨{ program with body := report.value }, report.count⟩
      else .error report.diagnostics
    log := headerWarnings options program ++ overrideEvents annotations ++ report.events }

end JsxLowering
