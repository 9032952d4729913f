import JsxLowering.Scope
import JsxLowering.Text.CodeRange
import JsxLowering.Text.Utf8

set_option autoImplicit false

/-!
Checks that a program makes sense beyond its grammar. Names are declared once, and none is
reserved or assigned to that must not be; no literal is written in an old way; jumps lead
somewhere; and braces around an attribute's value hold something.

The complaints come in the order in which the parts of the program end, except that a
name that clashes is complained about where its declaration starts.
-/

namespace JsxLowering

/-- What is around a place, and the complaints so far, latest first. -/
structure Checker where
  source : List Char
  typed : Bool
  scopes : Scopes
  around : List Surrounding
  /-- The names that are exported and have to be declared, latest first. -/
  exports : List Name
  complaints : List Diagnostic

namespace Checker

def complain (checker : Checker) (complaint : Diagnostic) : Checker :=
  { checker with complaints := complaint :: checker.complaints }

def complainIf (checker : Checker) (wrong : Bool) (message : String) (span : Span) : Checker :=
  if wrong then checker.complain (.error message span) else checker

def text (checker : Checker) (span : Span) : List Char :=
  Text.slice span.start.toNat span.stop.toNat checker.source

/-! Names. -/

def reservedNames : List String :=
  ["await", "implements", "interface", "let", "package", "private", "protected", "public",
   "static", "yield"]

def useName (checker : Checker) (span : Span) (name : String) : Checker :=
  checker.complainIf (reservedNames.contains name)
    ("The keyword '" ++ name ++ "' is reserved") span

def assignName (checker : Checker) (span : Span) (name : String) : Checker :=
  checker.complainIf (name == "eval" || name == "arguments")
    ("Cannot assign to '" ++ name ++ "' in strict mode") span

def declareName (checker : Checker) (name : Name) : Checker :=
  (checker.useName name.span name.text).assignName name.span name.text

def afterDeclaring (checker : Checker) (name : Name) (declared : Scopes × Bool) : Checker :=
  { checker with scopes := declared.1 }.complainIf declared.2
    ("Identifier `" ++ name.text ++ "` has already been declared") name.span

def declare (checker : Checker) (name : Name) (binding : Binding) : Checker :=
  checker.afterDeclaring name (checker.scopes.declare name.text binding)

def enter (checker : Checker) (kind : ScopeKind) : Checker :=
  { checker with scopes := checker.scopes.enter kind }

def leave (checker : Checker) : Checker := { checker with scopes := checker.scopes.leave }

def enterFunction (checker : Checker) (kind : ScopeKind) (parameters : List Name) : Checker :=
  let declared := parameters.foldl (fun checker name => checker.declare name .parameter)
    (checker.enter kind)
  parameters.foldl declareName declared

def goInto (checker : Checker) (surrounding : Surrounding) : Checker :=
  { checker with around := surrounding :: checker.around }

def goOut (checker : Checker) : Checker := { checker with around := checker.around.tail }

/-! Literals. -/

def octalMessage : String :=
  "'0'-prefixed octal literals and octal escape sequences are deprecated"

def number (checker : Checker) (span : Span) : Checker :=
  match checker.text span with
  | '0' :: second :: rest =>
      if Text.isAsciiDigit second then
        let octal := (second :: rest).all fun c => '0' ≤ c && c ≤ '7'
        checker.complain (.error
          (if octal then octalMessage
           else "Decimals with leading zeros are not allowed in strict mode") span)
      else checker
  | _ => checker

def escapeComplaint? : List Char → Option String
  | '\\' :: '0' :: rest =>
      match rest with
      | next :: _ =>
          if '1' ≤ next && next ≤ '9' then some octalMessage else escapeComplaint? rest
      | [] => none
  | '\\' :: escaped :: rest =>
      if '1' ≤ escaped && escaped ≤ '7' then some octalMessage
      else if escaped == '8' || escaped == '9' then some "Invalid escape sequence"
      else escapeComplaint? rest
  | _ :: rest => escapeComplaint? rest
  | [] => none

def string (checker : Checker) (span : Span) (text : List Char) : Checker :=
  match escapeComplaint? text with
  | some message => checker.complain (.error message span)
  | none => checker

/-- Checks how a string is written that has a value. With nothing but the quotes around the value
it holds no escapes. -/
def literal (checker : Checker) (span : Span) (value : String) : Checker :=
  if span.stop.toNat - span.start.toNat = value.utf8ByteSize + 2 then checker
  else checker.string span (checker.text span)

def verbatim (checker : Checker) (span : Span) (text : List Char) : Checker :=
  match text with
  | '"' :: rest => checker.string span rest
  | '\'' :: rest => checker.string span rest
  | _ => checker

/-! Nodes. -/

def emptyBraces (span : Span) : Diagnostic :=
  .error "TS(17000): JSX attributes must only be assigned a non-empty 'expression'." span

def isAlternative : Expr → Bool
  | .logical _ operator _ _ => operator == "||" || operator == "&&"
  | _ => false

/-- Whether a logical operator is mixed with others in a way that nobody should have to
read. -/
def isMixed (operator : String) (left right : Expr) : Bool :=
  operator == "??" && (isAlternative left || isAlternative right)

def isSignedPower (operator : String) (left : Expr) : Bool :=
  match left with
  | .unary .. => operator == "**"
  | _ => false

def deletesName (operator : String) : Expr → Bool
  | .identifier .. => operator == "delete"
  | .parenthesized _ inner => deletesName operator inner
  | .typed _ inner _ => deletesName operator inner
  | .present _ inner => deletesName operator inner
  | _ => false

def protoSpans (properties : List Property) : List Span :=
  properties.filterMap fun property =>
    match property with
    | .keyed _ (.name name) _ false false =>
        if name.text == "__proto__" then some name.span else none
    | .keyed _ (.expr (.string span value)) _ false false =>
        if value == "__proto__" then some span else none
    | _ => none

/-- Checks that an object says once at most what it inherits from. -/
def object (checker : Checker) (properties : List Property) : Checker :=
  (protoSpans properties).tail.foldl (fun checker span =>
    checker.complain (.error "Identifier `__proto__` has already been declared" span)) checker

def branch (checker : Checker) (statement : Statement) : Checker :=
  checker.complainIf statement.isFunction "Invalid function declaration" statement.span

def loopsAt? (around : List Surrounding) (name : String) : Option Bool :=
  around.findSome? fun surrounding =>
    match surrounding with
    | .label other loops => if other = name then some loops else none
    | _ => none

def inReach (checker : Checker) : List Surrounding :=
  checker.around.takeWhile fun surrounding => surrounding != .function

def label (checker : Checker) (name : Name) : Checker :=
  checker.complainIf (loopsAt? checker.inReach name.text).isSome
    ("Identifier `" ++ name.text ++ "` has already been declared") name.span

def jumpComplaint? (checker : Checker) (goesOn : Bool) : Option Name → Option String
  | none =>
      if checker.inReach.contains .loop || (!goesOn && checker.inReach.contains .choice) then none
      else if goesOn then
        some "Illegal continue statement: no surrounding iteration statement"
      else some "Illegal break statement"
  | some label =>
      match loopsAt? checker.inReach label.text with
      | some loops =>
          if goesOn && !loops then
            some ("A `continue` statement can only jump to a label of an enclosing `for`, " ++
              "`while` or `do while` statement.")
          else none
      | none =>
          if checker.around.contains .function then
            some "Jump target cannot cross function boundary."
          else some "Use of undefined label"

def piece (checker : Checker) : Piece → Checker
  | .name name => checker.useName name.span name.text
  | .binding name => checker.declareName name
  | .string span value => checker.literal span value
  | .declares binding name => checker.declare name binding
  | .exports name => { checker with exports := name :: checker.exports }
  | .enters kind => checker.enter kind
  | .leaves => checker.leave
  | .within surrounding => checker.goInto surrounding
  | .without => checker.goOut
  | .jump span goesOn label =>
      match checker.jumpComplaint? goesOn label with
      | some message => checker.complain (.error message span)
      | none => checker
  | .objection message span => checker.complain (.error message span)
  | _ => checker

/-- Checks that an import or export stands at the top of its file. Where types may be used it need
not. -/
def atTop (checker : Checker) (top : Bool) (what : String) (span : Span) : Checker :=
  checker.complainIf (!top && !checker.typed)
    ("'" ++ what ++ " statement' declaration can only be used at the top level of a module") span

def isImport : List Part → Bool
  | .piece (.word word) :: _ => word == "import"
  | _ => false

/-- The complaints about names that are exported and not declared. Where types may be used they are
not looked for. -/
def undeclared (checker : Checker) : List Diagnostic :=
  if checker.typed then []
  else
    (checker.exports.reverse.filter fun name => (checker.scopes.findAt? 0 name.text).isNone).map
      fun name => .error ("Export '" ++ name.text ++ "' is not defined") name.span

def rootName? : TagObject → Option Name
  | .reference name => some name
  | .this _ => none
  | .member _ object _ => rootName? object

def tag (checker : Checker) : Tag → Checker
  | .reference name => checker.useName name.span name.text
  | .member _ object _ =>
      match rootName? object with
      | some name => checker.useName name.span name.text
      | none => checker
  | _ => checker

end Checker

namespace Expr

def name? : Expr → Option Name
  | identifier span name _ => some ⟨span, name⟩
  | parenthesized _ inner => inner.name?
  | _ => none

end Expr

def Checker.target (checker : Checker) (target : Expr) : Checker :=
  match target.name? with
  | some name => checker.assignName name.span name.text
  | none => checker

def Statement.isLoop : Statement → Bool
  | .form _ _ parts => parts.any fun part =>
      match part with
      | .piece (.within .loop) => true
      | _ => false
  | _ => false

mutual

def Expr.check (checker : Checker) : Expr → Checker
  | .identifier span name _ => checker.useName span name
  | .string span value => checker.literal span value
  | .verbatim span text => checker.verbatim span text.toList
  | .number span _ => checker.number span
  | .fraction span _ => checker.number span
  | .member _ object _ => object.check checker
  | .index _ object key => key.check (object.check checker)
  | .call _ callee arguments => checkItems (callee.check checker) arguments
  | .array _ elements => checkItems checker elements
  | .object _ properties => (checkProperties checker properties).object properties
  | .conditional _ test yes no => no.check (yes.check (test.check checker))
  | .binary span operator left right =>
      (right.check (left.check checker)).complainIf (Checker.isSignedPower operator left)
        "Unexpected exponentiation expression" span
  | .logical span operator left right =>
      (right.check (left.check checker)).complainIf (Checker.isMixed operator left right)
        "Logical expressions and coalesce expressions cannot be mixed" span
  | .unary span operator argument =>
      (argument.check checker).complainIf (Checker.deletesName operator argument)
        "Delete of an unqualified identifier in strict mode." span
  | .assign _ _ target value => value.check ((target.check checker).target target)
  | .update _ _ _ target => (target.check checker).target target
  | .sequence _ expressions => checkExprs checker expressions
  | .parenthesized _ inner => inner.check checker
  | .arrow _ parameters body => (body.check (checker.enterFunction .arrow parameters)).leave
  | .marked _ inner => inner.check checker
  | .typed _ inner _ => inner.check checker
  | .present _ inner => inner.check checker
  | .form _ _ _ parts => checkParts checker parts
  | .markup content => content.check checker
  | .boolean .. => checker
  | .null _ => checker
  | .this _ => checker

def Part.check (checker : Checker) : Part → Checker
  | .piece piece => checker.piece piece
  | .expr _ value => value.check checker
  | .arguments _ items => checkItems checker items
  | .body content => content.check checker
  | .block _ statements => (checkStatements (checker.enter .block) false statements).leave
  | .statement _ content => content.check checker false

def checkParts (checker : Checker) : List Part → Checker
  | [] => checker
  | part :: rest => checkParts (part.check checker) rest

def checkExprs (checker : Checker) : List Expr → Checker
  | [] => checker
  | value :: rest => checkExprs (value.check checker) rest

def Item.check (checker : Checker) : Item → Checker
  | .expr value => value.check checker
  | .spread _ argument => argument.check checker
  | .hole _ => checker

def checkItems (checker : Checker) : List Item → Checker
  | [] => checker
  | item :: rest => checkItems (item.check checker) rest

def Key.check (checker : Checker) : Key → Checker
  | .name _ => checker
  | .expr value => value.check checker

def Property.check (checker : Checker) : Property → Checker
  | .keyed _ key value _ _ => value.check (key.check checker)
  | .spread _ argument => argument.check checker
  | .method _ parts => checkParts checker parts

def checkProperties (checker : Checker) : List Property → Checker
  | [] => checker
  | property :: rest => checkProperties (property.check checker) rest

def FunctionBody.check (checker : Checker) : FunctionBody → Checker
  | .expr value => value.check checker
  | .block _ statements => checkStatements checker false statements

def Markup.check (checker : Checker) : Markup → Checker
  | .element span opening tag attributes children =>
      let checker := checkChildren (checkAttributes (checker.tag tag) attributes) children
      if span = opening then checker else checker.tag tag
  | .fragment _ children => checkChildren checker children

def Attribute.check (checker : Checker) : Attribute → Checker
  | .named _ _ value => value.check checker
  | .spread _ argument => argument.check checker

def checkAttributes (checker : Checker) : List Attribute → Checker
  | [] => checker
  | given :: rest => checkAttributes (given.check checker) rest

def AttributeValue.check (checker : Checker) : AttributeValue → Checker
  | .bare => checker
  | .text span value => checker.string span value.toList
  | .braced span content => content.check checker (some span)
  | .markup content => content.check checker

/-- Checks what stands in braces; those of an attribute, given by their span, may not be
empty. -/
def Braced.check (checker : Checker) (owner : Option Span) : Braced → Checker
  | .expr value => value.check checker
  | .empty _ =>
      match owner with
      | some span => checker.complain (Checker.emptyBraces span)
      | none => checker

def Child.check (checker : Checker) : Child → Checker
  | .text .. => checker
  | .markup content => content.check checker
  | .braced _ content => content.check checker none
  | .spread _ argument => argument.check checker

def checkChildren (checker : Checker) : List Child → Checker
  | [] => checker
  | child :: rest => checkChildren (child.check checker) rest

def Statement.check (checker : Checker) (top : Bool) : Statement → Checker
  | .empty _ => checker
  | .directive span text => checker.string span text.toList
  | .expression _ value => value.check checker
  | .labeled _ label body =>
      let inside :=
        (checker.useName label.span label.text).goInto (.label label.text body.isLoop)
      ((body.check inside false).goOut.label label).branch body
  | .declaration _ kind declarators => checkDeclarators checker kind declarators
  | .function _ name parameters _ body =>
      let inside := ((checker.declare name .function).declareName name).enterFunction .function
        parameters
      (checkStatements (inside.goInto .function) false body).goOut.leave
  | .ret _ argument => checkOptional checker argument
  | .block _ body => (checkStatements (checker.enter .block) false body).leave
  | .ifElse _ test yes no =>
      let checker := (checkAlternative (yes.check (test.check checker) false) no).branch yes
      match no with
      | some statement => checker.branch statement
      | none => checker
  | .exportDeclaration span declaration => (declaration.check checker false).atTop top "export" span
  | .exportDefault span value => (value.check checker).atTop top "export" span
  | .marked declaration => declaration.check checker top
  | .form span _ parts =>
      (checkParts checker parts).atTop (top || !Checker.isImport parts) "import" span

def checkStatements (checker : Checker) (top : Bool) : List Statement → Checker
  | [] => checker
  | statement :: rest => checkStatements (statement.check checker top) top rest

def checkOptional (checker : Checker) : Option Expr → Checker
  | none => checker
  | some value => value.check checker

def checkAlternative (checker : Checker) : Option Statement → Checker
  | none => checker
  | some statement => statement.check checker false

def Declarator.check (checker : Checker) (kind : VariableKind) : Declarator → Checker
  | .mk _ name _ init =>
      checkOptional ((checker.declare name kind.binding).declareName name) init

def checkDeclarators (checker : Checker) (kind : VariableKind) : List Declarator → Checker
  | [] => checker
  | declarator :: rest => checkDeclarators (declarator.check checker kind) kind rest

end

def Program.check (typed : Bool) (program : Program) : List Diagnostic :=
  let checker : Checker := ⟨program.source.toList, typed, .file, [], [], []⟩
  let checker := program.directives.foldl (fun checker directive =>
    checker.string directive.span directive.value.toList) checker
  let checked := checkStatements checker true program.body
  checked.complaints.reverse ++ checked.undeclared

end JsxLowering
