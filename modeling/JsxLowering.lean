import JsxLowering.Annotation
import JsxLowering.Check
import JsxLowering.CommandLine.Arguments
import JsxLowering.CommandLine.Folder
import JsxLowering.CommandLine.Session
import JsxLowering.Compile
import JsxLowering.Decimal
import JsxLowering.Diagnostic
import JsxLowering.DottedPath
import JsxLowering.Entity
import JsxLowering.Entity.Names
import JsxLowering.Fixture.Name
import JsxLowering.Fixture.Suite
import JsxLowering.Fixture.Tests
import JsxLowering.IdentifierName
import JsxLowering.KnownTags
import JsxLowering.Log
import JsxLowering.Lowering.Attribute
import JsxLowering.Lowering.Child
import JsxLowering.Lowering.Header
import JsxLowering.Lowering.Report
import JsxLowering.Lowering.Target
import JsxLowering.Lowering.Walk
import JsxLowering.Main
import JsxLowering.Options
import JsxLowering.Printer.Literal
import JsxLowering.Printer.Output
import JsxLowering.Printer.Program
import JsxLowering.Proofs.Alignment
import JsxLowering.Proofs.Braces
import JsxLowering.Proofs.Diagnostics
import JsxLowering.Proofs.Docblock
import JsxLowering.Proofs.Elimination
import JsxLowering.Proofs.Numeral
import JsxLowering.Proofs.Fixture.Writing
import JsxLowering.Proofs.Fixture.Coverage
import JsxLowering.Proofs.Fixture.Discovery
import JsxLowering.Proofs.Gathering
import JsxLowering.Proofs.Header
import JsxLowering.Proofs.Independence
import JsxLowering.Proofs.Modes
import JsxLowering.Proofs.Nesting
import JsxLowering.Proofs.Node
import JsxLowering.Proofs.Delivery
import JsxLowering.Proofs.Pieces
import JsxLowering.Proofs.Preservation
import JsxLowering.Proofs.Refinement
import JsxLowering.Proofs.Report
import JsxLowering.Proofs.Scanning
import JsxLowering.Proofs.Simulation
import JsxLowering.Proofs.Spans
import JsxLowering.Proofs.Tracing
import JsxLowering.Proofs.Traversal
import JsxLowering.Proofs.Traverser
import JsxLowering.Proofs.Unfolding
import JsxLowering.Scope
import JsxLowering.Source.Classes
import JsxLowering.Source.Control
import JsxLowering.Source.Cursor
import JsxLowering.Source.Declarations
import JsxLowering.Source.Escape
import JsxLowering.Source.Functions
import JsxLowering.Source.Grammar
import JsxLowering.Source.Lexer
import JsxLowering.Source.Literals
import JsxLowering.Source.Modules
import JsxLowering.Source.Numeral
import JsxLowering.Source.Operators
import JsxLowering.Source.Parse
import JsxLowering.Source.Patterns
import JsxLowering.Source.Statements
import JsxLowering.Source.Tags
import JsxLowering.Source.Targets
import JsxLowering.Source.Token
import JsxLowering.Source.TypeDeclarations
import JsxLowering.Source.TypeForms
import JsxLowering.Source.Types
import JsxLowering.SourceMap
import JsxLowering.Span
import JsxLowering.Strength
import JsxLowering.Syntax
import JsxLowering.Text.Alphanumeric
import JsxLowering.Text.Base64
import JsxLowering.Text.Blank
import JsxLowering.Text.CodeRange
import JsxLowering.Text.IdentifierChars
import JsxLowering.Text.Line
import JsxLowering.Text.Printable
import JsxLowering.Text.Quoted
import JsxLowering.Text.Uppercase
import JsxLowering.Text.Utf8
import JsxLowering.Transform
import JsxLowering.Proofs.Fixture.Listing
import JsxLowering.Proofs.Grouping
import JsxLowering.Proofs.Trimming
import JsxLowering.Proofs.Location
import JsxLowering.Proofs.Decoding
import JsxLowering.Proofs.Settling
import JsxLowering.Proofs.Placement
import JsxLowering.Proofs.Fragments
import JsxLowering.Proofs.AccessPath
import JsxLowering.Proofs.PragmaLines
import JsxLowering.Proofs.GluedPath
import JsxLowering.Proofs.Making
import JsxLowering.Proofs.Naming
import JsxLowering.Proofs.CalleeRoots
import JsxLowering.Proofs.PathText
import JsxLowering.Proofs.Clashes
import JsxLowering.Proofs.Spelling
