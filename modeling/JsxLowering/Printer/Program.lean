import JsxLowering.Printer.Output

set_option autoImplicit false

/-!
Printing programs. Parentheses of the source are dropped, and new ones are put where
the strength of the operators needs them. An expression is printed over a floor: it is
put in parentheses unless it binds tighter.

Lists of more than two elements and objects of more than one property take one line
for each member. Only programs without markup are printed; markup leaves no trace.
-/

namespace JsxLowering

namespace Output

def wrapped (output : Output) (wrap : Bool) (body : Output → Output) : Output :=
  if wrap then (body (output.put "(")).put ")" else body output

/-- Prints an operator that is a word with spaces where they are needed, and any other with
spaces that can be left out. -/
def operator (output : Output) (operator : String) : Output :=
  let spaced := output.softSpace
  if operator.toList.any Text.isNamePart then (spaced.separateWord.put operator).softSpace
  else ((spaced.separateOperator operator).symbol operator).softSpace

def unaryOperator (output : Output) (operator : String) : Output :=
  if operator.toList.any Text.isNamePart then (output.separateWord.put operator).softSpace
  else (output.separateOperator operator).symbol operator

end Output

namespace Expr

def isOrAnd (value : Expr) : Bool :=
  match value.bare with
  | logical _ operator _ _ => operator == "||" || operator == "&&"
  | _ => false

def strength : Expr → Strength
  | arrow .. => .assign
  | form _ strength _ _ => strength
  | _ => .atomic

def isGuarded : Expr → Bool
  | form _ _ guarded _ => guarded
  | _ => false

def isParenthesized : Expr → Bool
  | parenthesized .. => true
  | _ => false

def isIdentifier (value : Expr) (name : String) : Bool :=
  match value.bare with
  | identifier _ text _ => text == name
  | _ => false

end Expr

def leftFloor (operator : String) (left : Expr) : Nat :=
  let rank := (Strength.ofOperator operator).rank
  if operator = "??" && left.isOrAnd then Strength.unary.rank
  else if operator = "**" then rank
  else rank - 1

/-- The floor under the right operand of a binary operator. It makes no difference how
operands of one logical operator are grouped. -/
def rightFloor (operator : String) (right : Expr) : Nat :=
  let rank := (Strength.ofOperator operator).rank
  if operator = "??" && right.isOrAnd then Strength.unary.rank
  else if ["**", "??", "||", "&&"].contains operator then rank - 1
  else rank

def isShorthand (key : Key) (value : Expr) (shorthand : Bool) : Bool :=
  match key with
  | .name name => if name.text = "__proto__" then shorthand else value.isIdentifier name.text
  | .expr _ => false

def Key.isInfinite : Key → Bool
  | .expr (.number _ value) => Double.limit ≤ value
  | _ => false

def endsInHole (elements : List Item) : Bool :=
  match elements.getLast? with
  | some (.hole _) => true
  | _ => false

inductive Setting where
  | inline
  | lines
  | commented
  deriving DecidableEq

inductive Place where
  | own
  | exported
  | chained
  | branch (afterWord more : Bool)

namespace Place

def isBranch : Place → Bool
  | branch _ _ => true
  | _ => false

def isFollowed : Place → Bool
  | branch _ more => more
  | _ => false

end Place

def Statement.isIf : Statement → Bool
  | ifElse .. => true
  | _ => false

/-- Whether a piece is there for the checks only. -/
def Piece.isSilent : Piece → Bool
  | leaves => true
  | without => true
  | objection .. => true
  | _ => false

/-- Whether a part is there for the checks only. -/
def Part.isSilent : Part → Bool
  | piece content => content.isSilent
  | _ => false

mutual

def Statement.takesElse : Statement → Bool
  | .ifElse _ _ _ no => alternativeTakesElse no
  | .labeled _ _ body => body.takesElse
  | .form _ _ parts => partsTakeElse parts
  | _ => false

def partsTakeElse : List Part → Bool
  | [] => false
  | .statement true content :: rest =>
      if rest.all Part.isSilent then content.takesElse else partsTakeElse rest
  | _ :: rest => partsTakeElse rest

/-- Whether a word for a second branch would be read as part of a conditional statement with
the given one. -/
def alternativeTakesElse : Option Statement → Bool
  | none => true
  | some statement => statement.takesElse

end

namespace Output

def braces (output : Output) (span : Span) (empty : Bool) (body : Output → Output) : Output :=
  let output := (output.linkStart span).put "\x7b"
  let output := if empty then output else (body output.softNewline.deeper).shallower.indent
  ((output.linkEnd span).put "\x7d").oweNothing

def functionBraces (output : Output) (span : Span) (empty : Bool) (body : Output → Output) :
    Output :=
  let offset := span.stop - 1
  let comments := output.kept offset
  (output.dismiss offset).braces span (empty && comments.isEmpty) fun output =>
    (body output).statementLines comments

def directive (output : Output) (span : Span) (text : String) : Output :=
  (((output.linkStart span).indent.put (Literal.directive text)).put ";").softNewline

def string (output : Output) (span : Span) (value : String) : Output :=
  let quote := if output.minify then Literal.shortestQuote value.toList else .double
  (output.linkStart span).put (Literal.string quote value.toList)

/-- Prints a whole number. One that is too large for numbers is written as a word, or when
that is shorter as a quotient. -/
def number (output : Output) (floor : Nat) (value : Nat) : Output :=
  if value < Double.limit then
    let text := Literal.number value
    let printed := output.separateWord.put text
    if Literal.needsSpaceBeforePoint text then { printed with numberEnd := some printed.size }
    else printed
  else if output.minify then
    output.wrapped (Strength.multiply.rank ≤ floor) fun output => output.separateWord.put "1/0"
  else output.separateWord.put "Infinity"

/-- Whether a regular expression printed now would run into what is before it. Two slashes would
start a comment, and no output closes a script. -/
def joinsRegex (output : Output) (body : List Char) : Bool :=
  match output.last with
  | some '/' => true
  | some '<' => "script".toList.isPrefixOf (body.map Char.toLower)
  | _ => false

def verbatim (output : Output) (span : Span) (text : String) : Output :=
  match text.toList with
  | '/' :: body =>
      let linked := output.linkStart span
      let printed := (if linked.joinsRegex body then linked.put " " else linked).put text
      { printed with regexEnd := some printed.size }
  | first :: _ =>
      if Text.isNamePart first then output.word span text else (output.linkStart span).put text
  | [] => output

def atStart (output : Output) : Bool :=
  output.statementStart = some output.size || output.exportStart = some output.size

/-- Prints the mark of a call without effects. It does not count as the start of a statement. -/
def callMark (output : Output) : Output :=
  let marked := output.put "/* @__PURE__ */ "
  if output.statementStart = some output.size then
    { marked with statementStart := some marked.size }
  else marked

/-- Prints the arguments of a call that start at the given offsets. With comments before them each
gets a line of its own. -/
def argumentList (output : Output) (span : Span) (offsets : List UInt32)
    (items : Setting → Output → Output) : Output :=
  let output := output.put "("
  let trailing := 0 < span.stop && output.hasComments (span.stop - 1)
  let output :=
    if trailing || offsets.any output.hasComments then
      let output := items .commented output.deeper
      let output :=
        if output.hasComments (span.stop - 1) && trailing then output.lineComments (span.stop - 1)
        else output.softNewline
      output.shallower
    else items .inline output
  (output.put ")").linkEnd span

/-- Gets ready for a branch that is no block. It stays on the line. -/
def enterBranch (output : Output) : Place → Output
  | .branch afterWord _ =>
      { (if afterWord && output.minify then output.put " " else output) with indentAsSpace := true }
  | _ => output

def enter (output : Output) (place : Place) (span : Span) : Output :=
  match place with
  | .exported => output.linkStart span
  | .chained => output.put " "
  | _ => (((output.enterBranch place).statementComments span.start).linkStart span).indent

/-- Goes to where a declaration starts. Its link comes after the indentation. -/
def enterDeclaration (output : Output) (place : Place) (span : Span) : Output :=
  match place with
  | .exported => (output.put " ").linkStart span
  | _ => (((output.enterBranch place).statementComments span.start).indent).linkStart span

def leave (output : Output) (place : Place) : Output :=
  if place.isFollowed then output.indent else output

def member (output : Output) (setting : Setting) (first : Bool) (offset : UInt32) : Output :=
  let output := if first then output else output.put ","
  match setting with
  | .inline => if first then output else output.softSpace
  | .lines => output.softNewline.indent
  | .commented =>
      if output.hasComments offset then (output.lineComments offset).indent
      else output.softNewline.indent

end Output

mutual

def Expr.print (floor : Nat) : Expr → Output → Output
  | .identifier span name _, output => output.identifier ⟨span, name⟩
  | .string span value, output => output.string span value
  | .number span value, output => (output.linkStart span).number floor value
  | .fraction span value, output =>
      ((output.linkStart span).separateWord).put (Literal.fraction value)
  | .verbatim span text, output => output.verbatim span text
  | .boolean span value, output =>
      ((output.linkStart span).separateWord).put (if value then "true" else "false")
  | .null span, output => output.word span "null"
  | .this span, output => output.word span "this"
  | .member _ object property, output =>
      let output := object.print Strength.postfixed.rank output
      let output := if output.numberEnd = some output.size then output.put " " else output
      (output.put ".").name property
  | .index _ object key, output =>
      let output := (object.print Strength.postfixed.rank output).put "["
      (key.print Strength.lowest.rank output).put "]"
  | .call span callee arguments, output =>
      output.wrapped (Strength.constructed.rank ≤ floor) fun output =>
        let output := callee.print Strength.postfixed.rank (output.linkStart span)
        output.argumentList span (arguments.map fun item => item.span.start) fun setting =>
          printItems setting true arguments
  | .array span elements, output =>
      let output := (output.linkStart span).put "["
      let output :=
        if 2 < elements.length then
          let output := printItems .lines true elements output.deeper
          let output := if endsInHole elements then output.put "," else output
          output.softNewline.shallower.indent
        else
          let output := printItems .inline true elements output
          if endsInHole elements then output.put "," else output
      (output.linkEnd span).put "]"
  | .object span properties, output =>
      let wrap := output.statementStart = some output.size || output.arrowStart = some output.size
      output.wrapped wrap fun output =>
        let output := (output.linkStart span).put "\x7b"
        let output :=
          match properties with
          | [] => output
          | [_] => (printProperties .inline true properties output.softSpace).softSpace
          | _ =>
              (printProperties .lines true properties output.deeper).softNewline.shallower.indent
        (output.linkEnd span).put "\x7d"
  | .conditional _ test yes no, output =>
      output.wrapped (Strength.conditional.rank ≤ floor) fun output =>
        let output := (test.print Strength.conditional.rank output).operator "?"
        let output := (yes.print Strength.yield.rank output).operator ":"
        no.print Strength.yield.rank output
  | .binary _ operator left right, output =>
      output.wrapped ((Strength.ofOperator operator).rank ≤ floor) fun output =>
        let output := (left.print (leftFloor operator left) output).operator operator
        right.print (rightFloor operator right) output
  | .logical _ operator left right, output =>
      output.wrapped ((Strength.ofOperator operator).rank ≤ floor) fun output =>
        let output := (left.print (leftFloor operator left) output).operator operator
        right.print (rightFloor operator right) output
  | .unary _ operator argument, output =>
      output.wrapped (Strength.unary.rank ≤ floor) fun output =>
        argument.print Strength.power.rank (output.unaryOperator operator)
  | .assign _ operator target value, output =>
      let start := output.statementStart = some output.size || output.arrowStart = some output.size
      output.wrapped (Strength.assign.rank ≤ floor || (target.isGuarded && start)) fun output =>
        value.print Strength.comma.rank
          ((target.print Strength.comma.rank output).operator operator)
  | .update span operator before target, output =>
      let strength := if before then Strength.unary.rank else Strength.postfixed.rank
      output.wrapped (strength ≤ floor) fun output =>
        let output := (output.linkStart span).separateOperator operator
        if before then target.print strength (output.symbol operator)
        else (target.print strength output).symbol operator
  | .sequence _ expressions, output =>
      output.wrapped (Strength.comma.rank ≤ floor) fun output =>
        printSequence true expressions output
  | .parenthesized _ inner, output => inner.print floor output
  | .arrow span parameters body, output =>
      output.wrapped (Strength.assign.rank ≤ floor) fun output =>
        let output := output.linkStart span
        let output :=
          if output.minify && parameters.length = 1 then output.names parameters
          else ((output.put "(").names parameters).put ")"
        let output := (output.softSpace.put "=>").softSpace
        body.print output
  | .marked mark inner, output =>
      if output.minify then inner.print floor output
      else
        match mark with
        | .call =>
            output.wrapped (Strength.postfixed.rank ≤ floor) fun output =>
              inner.print Strength.lowest.rank output.callMark
        | .function =>
            output.wrapped (inner.strength.rank ≤ floor || (inner.isGuarded && output.atStart))
              fun output =>
                inner.print Strength.lowest.rank (output.put "/* @__NO_SIDE_EFFECTS__ */ ")
  | .typed _ inner type, output =>
      output.wrapped (Strength.shift.rank ≤ floor) fun output =>
        ((inner.print Strength.power.rank output).put " as ").pieces type
  | .present _ inner, output =>
      let wrapped := output.wrapped inner.isParenthesized fun output => inner.print floor output
      wrapped.put (if output.minify then "! " else "!")
  | .form _ strength guarded parts, output =>
      output.wrapped (strength.rank ≤ floor || (guarded && output.atStart)) fun output =>
        printParts parts output
  | .markup _, output => output

def Part.print : Part → Output → Output
  | .piece piece, output => output.piece piece
  | .expr floor value, output => value.print floor.rank output
  | .arguments span items, output =>
      output.argumentList span (items.map fun item => item.span.start) fun setting =>
        printItems setting true items
  | .body content, output => content.print output
  | .block span statements, output =>
      output.braces span statements.isEmpty (printStatements statements)
  | .statement single content, output =>
      if single then content.print (.branch false false) output
      else content.print .own output.paySemicolon

def printParts : List Part → Output → Output
  | [], output => output
  | part :: rest, output => printParts rest (part.print output)

def printSequence (first : Bool) : List Expr → Output → Output
  | [], output => output
  | value :: rest, output =>
      printSequence false rest
        (value.print Strength.lowest.rank (output.member .inline first value.span.start))

def Item.print : Item → Output → Output
  | .expr value, output => value.print Strength.comma.rank output
  | .spread span argument, output =>
      argument.print Strength.comma.rank ((output.linkStart span).put "...")
  | .hole _, output => output

def printItems (setting : Setting) (first : Bool) : List Item → Output → Output
  | [], output => output
  | item :: rest, output =>
      printItems setting false rest (item.print (output.member setting first item.span.start))

def Key.print : Key → Output → Output
  | .name name, output => output.name name
  | .expr (.string span value), output => output.plainString span value
  | .expr value, output => value.print Strength.comma.rank output

def Property.print : Property → Output → Output
  | .keyed _ key value shorthand computed, output =>
      if isShorthand key value shorthand then value.print Strength.comma.rank output
      else
        let output :=
          if computed || key.isInfinite then (key.print (output.put "[")).put "]"
          else key.print output
        value.print Strength.comma.rank ((output.put ":").softSpace)
  | .spread span argument, output =>
      argument.print Strength.comma.rank ((output.linkStart span).put "...")
  | .method _ parts, output => printParts parts output

def printProperties (setting : Setting) (first : Bool) : List Property → Output → Output
  | [], output => output
  | property :: rest, output =>
      printProperties setting false rest (property.print (output.member setting first 0))

def FunctionBody.print : FunctionBody → Output → Output
  | .expr value, output =>
      value.print Strength.comma.rank { output with arrowStart := some output.size }
  | .block span statements, output =>
      output.functionBraces span statements.isEmpty (printStatements statements)

def Statement.print (place : Place) : Statement → Output → Output
  | .empty span, output =>
      let output := if place.isBranch then output else output.enter place span
      (output.put ";").softNewline.leave place
  | .directive span text, output => output.directive span text
  | .expression span value, output =>
      let output := output.enter place span
      let output := value.print Strength.lowest.rank
        { output with statementStart := some output.size }
      output.endStatement.leave place
  | .labeled span label body, output =>
      let output := ((output.enter place span).identifier label).put ":"
      (body.print (.branch false false) output).leave place
  | .declaration span kind declarators, output =>
      let output := (output.enterDeclaration place span).separateWord
      let output := printDeclarators true declarators (output.put kind.word).softSpace
      output.endStatement.leave place
  | .function span name parameters bodySpan body, output =>
      let opened := (output.enterDeclaration place span).separateWord.put "function"
      let output := opened.identifier name
      let output := (((output.put "(").names parameters).put ")").softSpace
      let output := output.functionBraces bodySpan body.isEmpty (printStatements body)
      output.softNewline.leave place
  | .ret span argument, output =>
      let output := (output.enter place span).separateWord.put "return"
      (printReturned argument output).endStatement.leave place
  | .block span body, output =>
      let output :=
        if place.isBranch then output.softSpace else (output.statementComments span.start).indent
      let output := output.braces span body.isEmpty (printStatements body)
      if place.isFollowed then output.softSpace else output.softNewline
  | .ifElse span test yes no, output =>
      let output := (((output.enter place span).put "if").softSpace).put "("
      let output := (test.print Strength.lowest.rank output).put ")"
      let output :=
        if yes.takesElse then
          let output := output.softSpace.braces yes.span false (yes.print .own)
          if no.isSome then output.softSpace else output.softNewline
        else yes.print (.branch false no.isSome) output
      (printAlternative no output).leave place
  | .exportDeclaration span declaration, output =>
      declaration.print .exported ((output.enter place span).put "export")
  | .exportDefault span value, output =>
      let output := (output.enter place span).put "export default "
      (value.print Strength.comma.rank { output with exportStart := some output.size }).endStatement
  | .marked declaration, output =>
      if output.minify then declaration.print place output
      else
        let output := (output.enterBranch place).statementComments declaration.span.start
        declaration.print place (output.indent.put "/* @__NO_SIDE_EFFECTS__ */\n")
  | .form span declares parts, output =>
      let output := if declares then output.enterDeclaration place span else output.enter place span
      (printParts parts output).leave place

def printAlternative : Option Statement → Output → Output
  | none, output => output
  | some statement, output =>
      statement.print (if statement.isIf then .chained else .branch true false)
        (output.paySemicolon.separateWord.put "else")

def printReturned : Option Expr → Output → Output
  | none, output => output
  | some value, output => value.print Strength.lowest.rank output.softSpace

def printDeclarators (first : Bool) : List Declarator → Output → Output
  | [], output => output
  | declarator :: rest, output =>
      printDeclarators false rest (declarator.print (output.member .inline first 0))

def Declarator.print : Declarator → Output → Output
  | .mk _ name type init, output =>
      printInit init ((output.identifier name).pieces type)

def printInit : Option Expr → Output → Output
  | none, output => output
  | some value, output => value.print Strength.comma.rank (output.operator "=")

def printStatements : List Statement → Output → Output
  | [], output => output
  | statement :: rest, output => printStatements rest (statement.print .own output.paySemicolon)

end

def Program.print (minify : Bool) (program : Program) : Output :=
  let output := Output.start minify program
  let output :=
    match program.interpreter with
    | some line => ((output.put "#!").put line).put "\n"
    | none => output
  let output := program.directives.foldl (fun output directive =>
    output.directive directive.span directive.value) output
  let ending := (Text.byteLength program.source.toList).toUInt32
  (printStatements program.body output).paySemicolon.statementComments ending

end JsxLowering
