import JsxLowering.Source.TypeDeclarations

set_option autoImplicit false

/-!
The grammar of imports and exports.
-/

namespace JsxLowering.Source.Grammar

open Reader

/-- A name that things are imported or exported under: a word, or a string. -/
structure ModuleName where
  text : String
  span : Span
  isWord : Bool

namespace ModuleName

def toName (name : ModuleName) : Name := ⟨name.span, name.text⟩

def part (name : ModuleName) : Part :=
  .piece (if name.isWord then .property name.toName else .string name.span name.text)

end ModuleName

def moduleName : Reader ModuleName := do
  match ← kind with
  | .string value _ =>
      let span ← tokenSpan
      advance
      return ⟨value, span, false⟩
  | _ =>
      let name ← anyWord
      return ⟨name.text, name.span, true⟩

def moduleSource : Reader Part := do
  match ← kind with
  | .string value _ =>
      let span ← tokenSpan
      advance
      return .piece (.string span value)
  | _ => unexpected

def renamed : Reader (ModuleName × ModuleName) := do
  let name ← moduleName
  if ← eatWord "as" then return (name, ← moduleName)
  return (name, name)

def inBraces (members : List (List Part)) : List Part :=
  if members.isEmpty then [.text "\x7b\x7d"]
  else .text "\x7b" :: .gap :: Part.separated members ++ [.gap, .text "\x7d"]

/-! Imports. -/

def importedNames : Reader (List (ModuleName × ModuleName)) := do
  expect "\x7b"
  let found ← delimited "\x7d" true do
    let (imported, name) ← renamed
    unless name.isWord && isIdentifier (.ofWord name.text) do
      throw (.error "Unexpected token" name.span)
    return (imported, name)
  expect "\x7d"
  return found

def importedParts (entry : ModuleName × ModuleName) : List Part :=
  if entry.1.text = entry.2.text then [.piece (.binding entry.2.toName)]
  else [entry.1.part, .text " as ", .piece (.binding entry.2.toName)]

def importedWhole : Reader Name := do
  expect "*"
  expectWord "as"
  bindingName

def wholeParts (name : Name) : List Part := [.text "* as ", .piece (.binding name)]

/-- Reads what is imported: the names that are declared, and the parts. -/
def imported : Reader (List Name × List Part) := do
  let first ← if isIdentifier (← kind) then some <$> bindingName else pure none
  let more ← match first with
    | some _ => eat ","
    | none => pure true
  let opening : List Part :=
    match first with
    | some name => [.text " ", .piece (.binding name)]
    | none => []
  unless more do return (first.toList, opening)
  let comma : List Part := if first.isSome then [.text ",", .gap] else [.gap]
  match ← kind with
  | .punctuator "*" =>
      let name ← importedWhole
      return (first.toList ++ [name], opening ++ comma ++ wholeParts name)
  | .punctuator "\x7b" =>
      let found ← importedNames
      return (first.toList ++ found.map fun entry => entry.2.toName,
        opening ++ comma ++ inBraces (found.map importedParts))
  | _ => if first.isSome then unexpected else return ([], [.gap, .text "\x7b\x7d"])

def importStatement : Reader Statement := do
  let start := (← token).start
  advance
  let parts : List Part ←
    match ← kind with
    | .string .. => pure [.gap, ← moduleSource]
    | _ =>
        let (names, parts) ← imported
        expectWord "from"
        let source ← moduleSource
        pure (names.map (fun name => .piece (.declares .lexical name)) ++ parts ++
          [.gap, .word "from", .gap, source])
  endStatement
  return .form (← spanFrom start) false (.word "import" :: parts ++ [.piece .ending])

/-! Exports. -/

def unexportable : List String :=
  reservedWords ++ ["implements", "interface", "let", "package", "private", "protected", "public",
    "static"]

def exportAs (name : ModuleName) : Reader Unit :=
  if name.text = "default" then exportValue else exportName name.toName

def exportedNames (start : Nat) : Reader Statement := do
  expect "\x7b"
  let found ← delimited "\x7d" true renamed
  expect "\x7d"
  let source ← if ← eatWord "from" then some <$> moduleSource else pure none
  if source.isNone then
    for (name, _) in found do
      unless name.isWord do
        throw (.error "A string literal cannot be used as an exported binding without `from`"
          name.span)
      if unexportable.contains name.text then
        complain "A reserved word cannot be used as an exported binding without `from`" name.span
  endStatement
  for (_, name) in found do exportAs name
  let span ← spanFrom start
  let declared (name : ModuleName) : List Part :=
    if source.isNone then [.piece (.exports name.toName)] else []
  let entryParts (entry : ModuleName × ModuleName) : List Part :=
    declared entry.1 ++ entry.1.part ::
      (if entry.1.text = entry.2.text then [] else [.text " as ", entry.2.part])
  let origin : List Part :=
    match source with
    | some source => [.gap, .text "from", .gap, source]
    | none => []
  return .exportDeclaration span (.form span false
    (.gap :: inBraces (found.map entryParts) ++ origin ++ [.piece .ending]))

def exportedWhole (start : Nat) : Reader Statement := do
  expect "*"
  let name ← if ← eatWord "as" then some <$> moduleName else pure none
  expectWord "from"
  let source ← moduleSource
  endStatement
  let shown : List Part ←
    match name with
    | some name =>
        exportAs name
        pure [.gap, .text "as ", name.part]
    | none => pure []
  let span ← spanFrom start
  return .exportDeclaration span (.form span false
    (.gap :: .text "*" :: shown ++ [.gap, .word "from", .gap, source, .piece .ending]))

/-- Reads a function that is exported under no name. -/
def defaultFunction (grammar : Grammar) (start : Nat) : Reader Statement := do
  let functionStart := (← token).start
  let (isAsync, isGenerator) ← functionWords
  let name ← if isIdentifier (← kind) then some <$> identifier else pure none
  let (signature, body) ← grammar.functionRest isAsync isGenerator
  let functionSpan ← spanFrom functionStart
  let span ← spanFrom start
  let declares := name.toList.map fun name => Part.piece (.declares .function name)
  return .exportDeclaration span (.form span true
    (.text "default " :: declares ++
      .piece (.property ⟨functionSpan, functionText isAsync isGenerator⟩) ::
      nameParts isGenerator name ++ functionParts signature body ++ [.piece .newline]))

/-- Reads a class that is exported under no name. -/
def defaultClass (grammar : Grammar) (start : Nat) : Reader Statement := do
  let classStart := (← token).start
  advance
  let decorators ← takeDecorators
  let (name, parts) ← grammar.classRest
  let classSpan ← spanFrom classStart
  let span ← spanFrom start
  let declares := name.toList.map fun name => Part.piece (.declares .lexical name)
  return .exportDeclaration span (.form span true
    (.text "default " :: declares ++ decorators ++ .piece (.property ⟨classSpan, "class"⟩) ::
      parts ++ [.piece .newline]))

/-- Reads what is exported under no name. -/
def exportedDefault (grammar : Grammar) (start : Nat) : Reader Statement := do
  advance
  let marked := (← token).markedFunction
  grammar.decorators
  let statement ←
    if ← isAtFunction then
      let declaration ← grammar.defaultFunction start
      pure (if marked then .marked declaration else declaration)
    else if ← isAtWord "class" then grammar.defaultClass start
    else
      let value ← grammar.assignment
      endStatement
      pure (.exportDefault (← spanFrom start) value)
  exportValue
  return statement

def declaredName? : Statement → Option Name
  | .function _ name .. => some name
  | .form _ _ parts => parts.findSome? fun part =>
      match part with
      | .piece (.declares _ name) => some name
      | _ => none
  | _ => none

def exportStatement (grammar : Grammar) : Reader Statement := do
  let start := (← token).start
  let marked := (← token).markedFunction
  advance
  match ← kind with
  | .keyword "default" => grammar.exportedDefault start
  | .punctuator "*" => exportedWhole start
  | .punctuator "\x7b" => exportedNames start
  | _ =>
      grammar.decorators
      if ← isAtTypeDeclaration then
        let declaration ← grammar.typeDeclaration
        return .exportDeclaration (← spanFrom start) declaration
      let (declaration, names) ←
        match variableKind? (← kind) with
        | some kind => grammar.declaration kind marked
        | none =>
            let declaration ←
              if ← isAtFunction then grammar.function false
              else if ← isAtWord "class" then grammar.classStatement false
              else unexpected
            pure (declaration, (declaredName? declaration).toList)
      for name in names do exportName name
      return .exportDeclaration (← spanFrom start) declaration

end JsxLowering.Source.Grammar
