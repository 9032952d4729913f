import JsxLowering.IdentifierName
import JsxLowering.Syntax

set_option autoImplicit false

/-!
The properties argument of an element, made from its attributes: one flat object in
source order, or one object for each namespace in the order in which the namespaces
first appear. An element without attributes gets `null`.
-/

namespace JsxLowering

inductive Entry where
  | property (span : Span) (name : String) (value : Expr)
  | spread (span : Span) (argument : Expr)

namespace AttributeName

def text : AttributeName → String
  | plain name => name.text
  | namespaced _ space name => space.text ++ ":" ++ name.text

end AttributeName

/-- The key for a name: the bare word if it is one, a string otherwise. -/
def propertyKey (name : String) (span : Span) : Key :=
  if isIdentifierName name then .name ⟨span, name⟩ else .expr (.string span name)

/-- The property `name: value`. -/
def plainProperty (span : Span) (name : String) (value : Expr) : Property :=
  .keyed span (propertyKey name span) value false false

/-- An object with the given properties, or `null` if there are none. -/
def objectOrNull (span : Span) (properties : List Property) : Expr :=
  if properties.isEmpty then .null span else .object span properties

/-- The namespace of spreads and of attributes without one. -/
def defaultNamespace : String := "#default"

/-- The text before and after the first `separator`. -/
def splitFirst (separator : Char) : List Char → Option (List Char × List Char)
  | [] => none
  | c :: rest =>
      if c = separator then some ([], rest)
      else (splitFirst separator rest).map fun cut => (c :: cut.1, cut.2)

/-- Splits a name into its namespace and local part: at the first colon, or else at the
first dash. A name with neither belongs to the default namespace. -/
def splitNamespace (name : String) : String × String :=
  match splitFirst ':' name.toList with
  | some cut => (String.ofList cut.1, String.ofList cut.2)
  | none =>
      match splitFirst '-' name.toList with
      | some cut => (String.ofList cut.1, String.ofList cut.2)
      | none => (defaultNamespace, name)

/-- The namespace of an attribute with the given name, or of a spread. -/
def spaceOf : Option String → String
  | some name => (splitNamespace name).1
  | none => defaultNamespace

namespace Entry

def span : Entry → Span
  | property span _ _ => span
  | spread span _ => span

/-- The name of an entry that is no spread. -/
def name? : Entry → Option String
  | property _ name _ => some name
  | spread _ _ => none

def space (entry : Entry) : String := spaceOf entry.name?

def flat : Entry → Property
  | property span name value => plainProperty span name value
  | spread span argument => .spread span argument

def inGroup : Entry → Property
  | property span name value => plainProperty span (splitNamespace name).2 value
  | spread span argument => .spread span argument

end Entry

/-- The properties of one namespace, with the span of its first entry. -/
structure Group where
  span : Span
  space : String
  properties : List Property

namespace Group

/-- The groups after one more entry. -/
def insert (entry : Entry) : List Group → List Group
  | [] => [⟨entry.span, entry.space, [entry.inGroup]⟩]
  | group :: rest =>
      if group.space = entry.space then
        { group with properties := group.properties ++ [entry.inGroup] } :: rest
      else group :: insert entry rest

/-- The entries by namespace, in the order in which the namespaces first appear. -/
def ofEntries (entries : List Entry) : List Group :=
  entries.foldl (fun groups entry => insert entry groups) []

def toProperty (group : Group) : Property :=
  plainProperty group.span group.space (objectOrNull group.span group.properties)

end Group

/-- The properties argument with every attribute under its full name. -/
def flatProps (span : Span) (entries : List Entry) : Expr :=
  objectOrNull span (entries.map Entry.flat)

/-- The properties argument with one object for each namespace. -/
def groupedProps (span : Span) (entries : List Entry) : Expr :=
  objectOrNull span ((Group.ofEntries entries).map Group.toProperty)

end JsxLowering
