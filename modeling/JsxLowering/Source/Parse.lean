import JsxLowering.Source.Statements

set_option autoImplicit false

/-!
Reading whole programs.
-/

namespace JsxLowering.Source

open Reader

/-- What came of reading a program. Where reading stopped early the program is empty. -/
structure Parsed where
  program : Program
  diagnostics : List Diagnostic
  stopped : Bool

def firstLine (text : List Char) : Option String × Lexer :=
  let lexer := Lexer.ofText text
  match text with
  | '#' :: '!' :: rest =>
      let line := rest.takeWhile fun c => !isLineBreak c
      let after := lexer.skipWhile fun c => !isLineBreak c
      (some (String.ofList line), { after with sawNewline := false })
  | _ => (none, lexer)

def exportComplaints (cursor : Cursor) : List Diagnostic :=
  cursor.exportComplaints.reverse ++
    if 1 < cursor.defaults then [.error "Duplicated default export" (spanBetween 0 0)] else []

def isForeign (cursor : Cursor) : Bool :=
  match (cursor.lexer.pending ++ cursor.lexer.comments).getLast? with
  | some comment =>
      let text := Text.slice comment.span.start.toNat comment.span.stop.toNat cursor.source
      !cursor.typed && Text.mentions "@flow".toList text
  | none => false

/-- All complaints after reading ended with a cursor and maybe a last complaint. Where types
may be used, exports are not looked at. -/
def diagnosticsAt (cursor : Cursor) (last : List Diagnostic) : List Diagnostic :=
  let loose := cursor.loose.map fun start =>
    .error "Invalid assignment in object literal" (spanBetween start start)
  let found := cursor.lexer.complaints.reverse ++ cursor.complaints.reverse ++ last ++ loose
  if !found.isEmpty && isForeign cursor then
    [.error "Flow is not supported" (spanBetween 0 0)]
  else found ++ (if cursor.typed then [] else exportComplaints cursor)

def parse (typed : Bool) (source : String) : Parsed :=
  let text := source.toList
  let (interpreter, lexer) := firstLine text
  let reader := (Grammar.ofDepth (text.length + 2)).readItems true
  match reader (.ofLexer text typed lexer) with
  | .ok body after =>
      { program :=
          ⟨source, after.lexer.comments.reverse, body.directives, body.statements, interpreter⟩
        diagnostics := diagnosticsAt after []
        stopped := false }
  | .error complaint after =>
      { program := ⟨source, [], [], [], none⟩
        diagnostics := diagnosticsAt after [complaint]
        stopped := true }

end JsxLowering.Source
