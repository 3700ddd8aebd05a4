import SchemaCompiler.Text.Wrap
import SchemaCompiler.Text.Quoted
import SchemaCompiler.Text.Spelling
import SchemaCompiler.Text.Displayed
import SchemaCompiler.Decimal.Notation
import SchemaCompiler.Json
import SchemaCompiler.Json.Codec
import SchemaCompiler.Json.Tabular
import SchemaCompiler.Model.Column
import SchemaCompiler.Model
import SchemaCompiler.SqlType
import SchemaCompiler.Naming
import SchemaCompiler.Content.Script
import SchemaCompiler.Dialect.Catalog
import SchemaCompiler.FileSystem.Tree
import SchemaCompiler.Artifact.Memory
import SchemaCompiler.Artifact.Directory
import SchemaCompiler.Compilation
import SchemaCompiler.Diagram
import SchemaCompiler.CommandLine
import SchemaCompiler.Main
import SchemaCompiler.Proofs.Artifact.Directory
import SchemaCompiler.Proofs.Artifact.Order
import SchemaCompiler.Proofs.SqlType.Chain
import SchemaCompiler.Proofs.Compilation.Memory
import SchemaCompiler.Proofs.Content.Containment
import SchemaCompiler.Proofs.Content.Script
import SchemaCompiler.Proofs.Definition.Exposure
import SchemaCompiler.Proofs.Compilation.Exposure
import SchemaCompiler.Proofs.Definition.ForeignKey
import SchemaCompiler.Proofs.Definition.ReferenceType
import SchemaCompiler.Proofs.Compilation.DriverScript
import SchemaCompiler.Proofs.Content.Call
import SchemaCompiler.Proofs.Occurrence
import SchemaCompiler.Proofs.Definition.PrimaryKey
import SchemaCompiler.Proofs.Definition.Dependence
import SchemaCompiler.Proofs.SqlText.Nesting
import SchemaCompiler.Proofs.SqlType.Precedence
import SchemaCompiler.Proofs.Definition.AddedTable
import SchemaCompiler.Proofs.Compilation.Naming
import SchemaCompiler.Proofs.Content.Isolation
import SchemaCompiler.Proofs.Definition.Dangling
import SchemaCompiler.Proofs.Content.Target
import SchemaCompiler.Proofs.Compilation.DriverArtifact
import SchemaCompiler.Proofs.Artifact.History
import SchemaCompiler.Proofs.Compilation.Directory
import SchemaCompiler.Proofs.SqlText.DollarQuote
import SchemaCompiler.Proofs.Definition.UniqueIdentifiers
import SchemaCompiler.Proofs.SqlType.Failure
import SchemaCompiler.Proofs.Content.Separator
import SchemaCompiler.Proofs.Content.Supplier
import SchemaCompiler.Proofs.Model.RoundTrip
import SchemaCompiler.Proofs.Naming
import SchemaCompiler.Proofs.Artifact.Confinement
import SchemaCompiler.Proofs.SqlText.LineComment
import SchemaCompiler.Proofs.Content.NonFinite
import SchemaCompiler.Proofs.Text.Wrap
import SchemaCompiler.Proofs.Definition.Layout
import SchemaCompiler.Proofs.Diagram.ShownTypes
import SchemaCompiler.Proofs.Diagram.Connectors
