import JsxLowering.Diagnostic
import JsxLowering.Log

set_option autoImplicit false

/-!
A value together with what making it has to report: the diagnostics and the events
in the order in which they arose, and how many pieces of markup were lowered.
-/

namespace JsxLowering

structure Report (α : Type) where
  value : α
  diagnostics : List Diagnostic
  events : List Event
  count : Nat

namespace Report

variable {α β : Type}

/-- A value with nothing to report. -/
def silent (value : α) : Report α := ⟨value, [], [], 0⟩

/-- One step after another; the first one's reports come first. -/
def andThen (first : Report α) (next : α → Report β) : Report β :=
  let second := next first.value
  ⟨second.value, first.diagnostics ++ second.diagnostics, first.events ++ second.events,
    first.count + second.count⟩

instance : Monad Report where
  pure := silent
  bind := andThen

def complain (diagnostic : Diagnostic) : Report Unit := ⟨(), [diagnostic], [], 0⟩

def record (event : Event) : Report Unit := ⟨(), [], [event], 0⟩

def lowered (event : Event) : Report Unit := ⟨(), [], [event], 1⟩

end Report

end JsxLowering
