import JsxLowering.Options
import JsxLowering.Span

set_option autoImplicit false

/-!
The log. What is worth a record is an event; how important an event is and how it
reads follow from the event alone.
-/

namespace JsxLowering

inductive Level where
  | error
  | warn
  | info
  | debug
  | trace
  deriving DecidableEq

namespace Level

def title : Level → String
  | error => "ERROR"
  | warn => "WARN"
  | info => "INFO"
  | debug => "DEBUG"
  | trace => "TRACE"

def rank : Level → Nat
  | error => 1
  | warn => 2
  | info => 3
  | debug => 4
  | trace => 5

end Level

inductive Pragma where
  | jsx
  | components
  deriving DecidableEq

namespace Pragma

def word : Pragma → String
  | jsx => "@jsx"
  | components => "@components"

end Pragma

inductive Event where
  | annotationWithoutPath (pragma : Pragma)
  | annotationIgnored (pragma : Pragma) (cause : PathError)
  | domOverridden (path : DottedPath)
  | componentsOverridden (path : DottedPath)
  | elementLowered (span : Span)
  | fragmentLowered (span : Span)
  | loweringStarted (options : Options)
  | loweringFinished (count : Nat)
  | fileRead (name : String)
  deriving DecidableEq

namespace Event

def level : Event → Level
  | annotationWithoutPath _ => .warn
  | annotationIgnored .. => .warn
  | domOverridden _ => .debug
  | componentsOverridden _ => .debug
  | elementLowered _ => .trace
  | fragmentLowered _ => .trace
  | loweringStarted _ => .debug
  | loweringFinished _ => .debug
  | fileRead _ => .debug

def message : Event → String
  | annotationWithoutPath pragma => "`" ++ pragma.word ++ "` annotation without a path"
  | annotationIgnored pragma cause =>
      "ignoring `" ++ pragma.word ++ "` annotation: " ++ cause.message
  | domOverridden path => "@jsx annotation overrides the DOM target: " ++ path.toText
  | componentsOverridden path =>
      "@components annotation overrides the components target: " ++ path.toText
  | elementLowered span => "lowered element at " ++ span.toText
  | fragmentLowered span => "lowered fragment at " ++ span.toText
  | loweringStarted options => "lowering with " ++ options.describe
  | loweringFinished count => "lowered " ++ toString count ++ " jsx elements"
  | fileRead name => "reading " ++ name

end Event

end JsxLowering
