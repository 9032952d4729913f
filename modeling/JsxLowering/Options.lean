import JsxLowering.DottedPath
import JsxLowering.Text.Quoted

set_option autoImplicit false

/-!
What a lowering is told from outside: the shape of the calls it makes and the paths
it makes them on.
-/

namespace JsxLowering

inductive Mode where
  | generic
  /-- As `generic`, with the properties grouped by their namespace. -/
  | grouped
  | targeted
  deriving DecidableEq

namespace Mode

/-- The mode's name in a request or on the command line. -/
def ofName? (name : String) : Option Mode :=
  if name = "generic" then some generic
  else if name = "grouped" then some grouped
  else if name = "targeted" then some targeted
  else none

def title : Mode → String
  | generic => "Generic"
  | grouped => "Grouped"
  | targeted => "Targeted"

end Mode

/-- The settings of a lowering. A file may override `dom` and `components` for itself. -/
structure Options where
  mode : Mode
  /-- What is called for every element, unless the tag itself is. -/
  tagCall : DottedPath
  dom : DottedPath
  /-- Where other tags are looked up; they stay bare where this is unset. -/
  components : Option DottedPath
  deriving DecidableEq

namespace Options

def defaultTagCall : DottedPath := ⟨["JSX", "tag"], by decide, by decide⟩

def defaultDom : DottedPath := ⟨["React", "DOM"], by decide, by decide⟩

/-- The settings that hold when nothing is said. -/
def standard : Options := ⟨.generic, defaultTagCall, defaultDom, none⟩

def showPath (path : DottedPath) : String :=
  "DottedPath \x7b segments: [" ++ ", ".intercalate (path.segments.map Text.quoted) ++ "] \x7d"

def describe (options : Options) : String :=
  "TransformOptions \x7b mode: " ++ options.mode.title ++
    ", tag_call: " ++ showPath options.tagCall ++
    ", dom_target: " ++ showPath options.dom ++
    ", components_target: " ++
    (match options.components with
      | none => "None"
      | some path => "Some(" ++ showPath path ++ ")") ++ " \x7d"

end Options

end JsxLowering
