import JsxLowering.Check
import JsxLowering.Printer.Program
import JsxLowering.Source.Parse
import JsxLowering.SourceMap
import JsxLowering.Transform

set_option autoImplicit false

/-!
Compiling source text: it is parsed, checked, lowered and printed. What a phase has to
say is sorted into errors and warnings, and a phase with errors is the last one. The
parser, the checker, the printer and the way diagnostics are shown are parameters, so
that nothing here depends on what they do; `compile` uses the ones of this library.
-/

namespace JsxLowering

structure Settings where
  output : Option String
  warningsAsErrors : Bool
  minify : Bool
  sourceMap : Bool
  entry : Option String
  typed : Bool
  lowering : Options

namespace Settings

def standard : Settings := ⟨none, false, false, false, none, false, .standard⟩

def sourceName (settings : Settings) : String :=
  settings.entry.getD "jsx-transpiler.js.map"

end Settings

/-- Printed code, with its source map as a URL if one was made. -/
structure Printed where
  code : String
  map : Option String

structure Toolchain where
  parse : Bool → String → Source.Parsed
  check : Bool → Program → List Diagnostic
  print : Settings → Program → Printed
  render : String → Diagnostic → String

namespace Toolchain

def printProgram (settings : Settings) (program : Program) : Printed :=
  let output := program.print settings.minify
  { code := output.text
    map :=
      if settings.sourceMap then
        some (SourceMap.dataUrl ⟨settings.sourceName, program.source, output.links.reverse⟩)
      else none }

/-- The phases of this library. Of a diagnostic the first line is shown. -/
def standard : Toolchain where
  parse := Source.parse
  check := Program.check
  print := printProgram
  render _ := Diagnostic.headline

end Toolchain

/-- What comes of a compilation: code, and the diagnostics as they are shown. With errors there
is no code. -/
structure Compilation where
  code : String
  warnings : List String
  errors : List String
  log : List Event

/-- Why a compilation could not be carried through. -/
inductive Fatal where
  | parserStopped
  deriving DecidableEq

def Fatal.message : Fatal → String
  | parserStopped => "parser panicked, but no errors were reported"

namespace Settings

def judge (settings : Settings) (diagnostic : Diagnostic) : Diagnostic :=
  if settings.warningsAsErrors then { diagnostic with severity := .error } else diagnostic

def isError (settings : Settings) (diagnostic : Diagnostic) : Bool :=
  (settings.judge diagnostic).severity == .error

end Settings

namespace Compilation

def empty : Compilation := ⟨"", [], [], []⟩

/-- Adds diagnostics, each to the errors or to the warnings. -/
def report (settings : Settings) (render : Diagnostic → String) (compilation : Compilation)
    (diagnostics : List Diagnostic) : Compilation :=
  { compilation with
    errors := compilation.errors ++
      (diagnostics.filter settings.isError).map fun diagnostic =>
        render (settings.judge diagnostic)
    warnings := compilation.warnings ++
      (diagnostics.filter fun diagnostic => !settings.isError diagnostic).map fun diagnostic =>
        render (settings.judge diagnostic) }

def record (compilation : Compilation) (events : List Event) : Compilation :=
  { compilation with log := compilation.log ++ events }

/-- Sets the code. A source map goes on a line of its own; one that is asked for and missing
is worth a warning. -/
def emit (settings : Settings) (compilation : Compilation) (printed : Printed) : Compilation :=
  if settings.sourceMap then
    match printed.map with
    | some url => { compilation with code := printed.code ++ "\n//# sourceMappingURL=" ++ url }
    | none =>
        { compilation with
          code := printed.code
          warnings := compilation.warnings ++
            ["sourcemap generation requested, but no sourcemap was generated"] }
  else { compilation with code := printed.code }

end Compilation

def Toolchain.finish (tools : Toolchain) (settings : Settings) (source : String)
    (program : Program) (compilation : Compilation) : Compilation :=
  let lowering := transform settings.lowering program
  let logged := compilation.record (.loweringStarted settings.lowering :: lowering.log)
  match lowering.outcome with
  | .error diagnostics => logged.report settings (tools.render source) diagnostics
  | .ok lowered =>
      (logged.record [.loweringFinished lowered.count]).emit settings
        (tools.print settings lowered.program)

def Toolchain.compile (tools : Toolchain) (settings : Settings) (source : String) :
    Except Fatal Compilation :=
  let parsed := tools.parse settings.typed source
  let report := Compilation.report settings (tools.render source)
  if parsed.stopped && parsed.diagnostics.isEmpty then .error .parserStopped
  else
    let read := report .empty parsed.diagnostics
    if !read.errors.isEmpty then .ok read
    else
      let checked := report read (tools.check settings.typed parsed.program)
      if !checked.errors.isEmpty then .ok checked
      else .ok (tools.finish settings source parsed.program checked)

def compile (settings : Settings) (source : String) : Except Fatal Compilation :=
  Toolchain.standard.compile settings source

end JsxLowering
