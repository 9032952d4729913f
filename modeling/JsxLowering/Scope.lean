import JsxLowering.Diagnostic
import JsxLowering.Syntax

set_option autoImplicit false

/-!
Which declarations may share a name. A lexical declaration shares its name with no other
of its scope. A variable belongs to the function around it: on its way there it passes
the blocks around it, and it may share its name with other variables, but with nothing
lexical on that way.

A name that clashes is complained about and then stands for what was declared first.
-/

namespace JsxLowering

namespace Binding

def isExclusive : Binding → Bool
  | hoisted => false
  | _ => true

end Binding

/-- A scope: the names declared in it, and the variables declared in it that belong further
out. What a name stands for is known by a number. -/
structure Scope where
  kind : ScopeKind
  names : List (String × Nat)
  passing : List (String × Nat)

namespace Scope

def empty (kind : ScopeKind) : Scope := ⟨kind, [], []⟩

def find? (scope : Scope) (name : String) : Option Nat :=
  (scope.names.lookup name).or (scope.passing.lookup name)

def bind (scope : Scope) (name : String) (symbol : Nat) : Scope :=
  { scope with names := (name, symbol) :: scope.names }

def unbind (scope : Scope) (name : String) : Scope :=
  { scope with names := scope.names.filter fun entry => entry.1 != name }

def pass (scope : Scope) (name : String) (symbol : Nat) : Scope :=
  { scope with passing := (name, symbol) :: scope.passing }

end Scope

structure Scopes where
  stack : List Scope
  count : Nat
  lexical : List Nat

namespace Scopes

def file : Scopes := ⟨[.empty .file], 0, []⟩

def enter (scopes : Scopes) (kind : ScopeKind) : Scopes :=
  { scopes with stack := .empty kind :: scopes.stack }

def leave (scopes : Scopes) : Scopes := { scopes with stack := scopes.stack.tail }

def inFunction (scopes : Scopes) : Bool :=
  match scopes.stack with
  | scope :: _ => scope.kind = .function || scope.kind = .arrow
  | [] => false

def clashes (scopes : Scopes) (binding : Binding) (symbol : Nat) : Bool :=
  binding.isExclusive || scopes.lexical.contains symbol

def note (scopes : Scopes) (binding : Binding) (symbol : Nat) : Scopes :=
  if binding = .lexical then { scopes with lexical := symbol :: scopes.lexical } else scopes

def findAt? (scopes : Scopes) (depth : Nat) (name : String) : Option Nat :=
  (scopes.stack[depth]?).bind fun scope => scope.find? name

/-- Declares a name in the scope at a depth: the new scopes, the symbol, and whether the name
clashes. -/
def declareAt (scopes : Scopes) (depth : Nat) (name : String) (binding : Binding) :
    Scopes × Nat × Bool :=
  match scopes.findAt? depth name with
  | some symbol => (scopes.note binding symbol, symbol, scopes.clashes binding symbol)
  | none =>
      let symbol := scopes.count
      let bound := { scopes with
        stack := scopes.stack.modify depth fun scope => scope.bind name symbol
        count := symbol + 1 }
      (bound.note binding symbol, symbol, false)

def blocks (scopes : Scopes) : Nat :=
  (scopes.stack.takeWhile fun scope => scope.kind = .block).length

def move (scopes : Scopes) (source target : Nat) (name : String) (symbol : Nat) : Scopes :=
  match (scopes.stack[target]?).bind fun scope => scope.names.lookup name with
  | some _ => scopes
  | none =>
      { scopes with
        stack := (scopes.stack.modify source fun scope => scope.unbind name).modify target
          fun scope => scope.bind name symbol }

def declareVariable (scopes : Scopes) (name : String) : Scopes × Bool :=
  let target := scopes.blocks
  let met := (List.range target).findSome? fun depth =>
    (scopes.findAt? depth name).map fun symbol => (depth, symbol)
  let (declared, symbol, clash) :=
    match met with
    | some (depth, symbol) =>
        (scopes.move depth target name symbol, symbol, scopes.clashes .hoisted symbol)
    | none => scopes.declareAt target name .hoisted
  let passed := (declared.stack.take target).map fun scope => scope.pass name symbol
  ({ declared with stack := passed ++ declared.stack.drop target }, clash)

/-- How a name is bound here. A function is a variable of the function around it, and elsewhere
lexical. -/
def bindingHere (scopes : Scopes) : Binding → Binding
  | .function => if scopes.inFunction then .hoisted else .lexical
  | binding => binding

def declare (scopes : Scopes) (name : String) (binding : Binding) : Scopes × Bool :=
  let binding := scopes.bindingHere binding
  if binding = .hoisted then scopes.declareVariable name
  else
    let (declared, _, clash) := scopes.declareAt 0 name binding
    (declared, clash)

end Scopes

end JsxLowering
