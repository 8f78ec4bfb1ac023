import RustSchema.Codec
import RustSchema.Conversion
import RustSchema.Conversion.Rule
import RustSchema.Decimal.Shortest
import RustSchema.Double
import RustSchema.Error
import RustSchema.Event
import RustSchema.Expr
import RustSchema.Ident
import RustSchema.ModPath
import RustSchema.ModPath.Travel
import RustSchema.Naming
import RustSchema.Options
import RustSchema.Options.Read
import RustSchema.Options.Tree
import RustSchema.Plain
import RustSchema.Plain.Declarations
import RustSchema.Plain.Names
import RustSchema.Plain.Scalar
import RustSchema.Plain.Types
import RustSchema.Proofs.Boxing
import RustSchema.Proofs.CamelCase
import RustSchema.Proofs.Clearing
import RustSchema.Proofs.Collisions
import RustSchema.Proofs.Conversion.Chain
import RustSchema.Proofs.Conversion.Coercion
import RustSchema.Proofs.Conversion.Domain
import RustSchema.Proofs.Conversion.Reading
import RustSchema.Proofs.Conversion.Table
import RustSchema.Proofs.Conversion.Typing
import RustSchema.Proofs.Declarations
import RustSchema.Proofs.Escaping
import RustSchema.Proofs.FileModules
import RustSchema.Proofs.Interchange
import RustSchema.Proofs.Keywords
import RustSchema.Proofs.Lookup
import RustSchema.Proofs.ModuleTree
import RustSchema.Proofs.NameReading
import RustSchema.Proofs.NameText
import RustSchema.Proofs.Naming
import RustSchema.Proofs.Obstacles
import RustSchema.Proofs.OptionEntries
import RustSchema.Proofs.Packages
import RustSchema.Proofs.Plain.Admission
import RustSchema.Proofs.Plain.Readings
import RustSchema.Proofs.Plain.RoundTrip
import RustSchema.Proofs.Redirection
import RustSchema.Proofs.SchemaNames
import RustSchema.Proofs.ShortestPath
import RustSchema.Proofs.Spelling
import RustSchema.Proofs.Storage
import RustSchema.Proofs.StoredValues
import RustSchema.Proofs.TypeText
import RustSchema.Proofs.TypedRuns
import RustSchema.Proofs.Views
import RustSchema.Proofs.WellKnownNames
import RustSchema.Proofs.WordStarts
import RustSchema.Proofs.Yaml.Keys
import RustSchema.Schema
import RustSchema.Scope
import RustSchema.Storage
import RustSchema.Text.Blank
import RustSchema.Text.Case
import RustSchema.Text.CaseTable
import RustSchema.Text.Digits
import RustSchema.Text.Printable
import RustSchema.Text.Quoted
import RustSchema.Text.Runs
import RustSchema.Traced
import RustSchema.Ty
import RustSchema.Ty.Text
import RustSchema.Ty.Value
import RustSchema.TypedValue
import RustSchema.WellKnown
import RustSchema.Yaml.Base64
import RustSchema.Yaml.Build
import RustSchema.Yaml.Char
import RustSchema.Yaml.Fault
import RustSchema.Yaml.Lexer
import RustSchema.Yaml.Moment
import RustSchema.Yaml.Node
import RustSchema.Yaml.Number
import RustSchema.Yaml.Resolve
import RustSchema.Yaml.Scalar
import RustSchema.Yaml.Tag
import RustSchema.Yaml.Text.Block
import RustSchema.Yaml.Text.Quoted
import RustSchema.Yaml.Text.Tag
import RustSchema.Yaml.Text.Unquoted
import RustSchema.Yaml.Token
import RustSchema.Yaml.Value
