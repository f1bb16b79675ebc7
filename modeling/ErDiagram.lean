import ErDiagram.Character.Alphanumeric
import ErDiagram.Character.Blank
import ErDiagram.Character.Lowercase
import ErDiagram.Character.Plain
import ErDiagram.Character.Quoted
import ErDiagram.Character.Ranges
import ErDiagram.CommandLine
import ErDiagram.Decimal.Binary64
import ErDiagram.Decimal.Shortest
import ErDiagram.Diagram
import ErDiagram.Document.AttributeText
import ErDiagram.Document.Parse
import ErDiagram.Document.Render
import ErDiagram.Document.Statement
import ErDiagram.Document.Word
import ErDiagram.Edit
import ErDiagram.ImpliedEdge
import ErDiagram.Json.Basic
import ErDiagram.Json.Fault
import ErDiagram.Json.Reader
import ErDiagram.Json.Record
import ErDiagram.Json.Scalar
import ErDiagram.Json.Schema
import ErDiagram.Json.Skip
import ErDiagram.Json.String
import ErDiagram.Kind
import ErDiagram.Main
import ErDiagram.Name
import ErDiagram.Proofs.AttributeName
import ErDiagram.Proofs.AttributeStart
import ErDiagram.Proofs.AttributeText
import ErDiagram.Proofs.Breach
import ErDiagram.Proofs.Capitals
import ErDiagram.Proofs.Character
import ErDiagram.Proofs.Confinement
import ErDiagram.Proofs.Discriminator
import ErDiagram.Proofs.DistinctNames
import ErDiagram.Proofs.Duplicates
import ErDiagram.Proofs.Edit
import ErDiagram.Proofs.Grammar.Attribute
import ErDiagram.Proofs.Grammar.Entity
import ErDiagram.Proofs.Grammar.Relationship
import ErDiagram.Proofs.Halt
import ErDiagram.Proofs.ImpliedEdge
import ErDiagram.Proofs.Json.Exact
import ErDiagram.Proofs.Json.Reader
import ErDiagram.Proofs.Json.Rewriting
import ErDiagram.Proofs.Json.RoundTrip
import ErDiagram.Proofs.Json.SchemaRewriting
import ErDiagram.Proofs.Json.Skip
import ErDiagram.Proofs.Json.String
import ErDiagram.Proofs.Json.Value
import ErDiagram.Proofs.Layout
import ErDiagram.Proofs.Legible
import ErDiagram.Proofs.Message
import ErDiagram.Proofs.NormalForm
import ErDiagram.Proofs.Orientation
import ErDiagram.Proofs.Outline
import ErDiagram.Proofs.Policy
import ErDiagram.Proofs.Resolution
import ErDiagram.Proofs.Respelling
import ErDiagram.Proofs.RoundTrip
import ErDiagram.Proofs.Segments
import ErDiagram.Proofs.SideBySide
import ErDiagram.Proofs.Splitting
import ErDiagram.Proofs.Statement
import ErDiagram.Proofs.Structure
import ErDiagram.Proofs.SyntaxError
import ErDiagram.Proofs.Translation
import ErDiagram.Proofs.WellFormed
import ErDiagram.Proofs.Word
import ErDiagram.Reference
import ErDiagram.Translation
import ErDiagram.Validation
import ErDiagram.Violation
import ErDiagram.Vocabulary
