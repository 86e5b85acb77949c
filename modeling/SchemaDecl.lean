import SchemaDecl.Arguments
import SchemaDecl.Calendar.Date
import SchemaDecl.Calendar.Iso
import SchemaDecl.Calendar.Moment
import SchemaDecl.Client
import SchemaDecl.Definition
import SchemaDecl.Definition.Circle
import SchemaDecl.Definition.Decode
import SchemaDecl.Deflate.Code
import SchemaDecl.Deflate.Inflate
import SchemaDecl.Document
import SchemaDecl.Emission
import SchemaDecl.Failure
import SchemaDecl.Files.Path
import SchemaDecl.Files.Tree
import SchemaDecl.Generation
import SchemaDecl.Http.ContentType
import SchemaDecl.Http.Domain
import SchemaDecl.Http.DomainChars
import SchemaDecl.Http.Exchange
import SchemaDecl.Http.Form
import SchemaDecl.Http.Host
import SchemaDecl.Http.Message
import SchemaDecl.Http.Reference
import SchemaDecl.Http.Url
import SchemaDecl.Identifier
import SchemaDecl.Inspection
import SchemaDecl.Json.Encoding
import SchemaDecl.Json.KeyOrder
import SchemaDecl.Json.Reader
import SchemaDecl.Json.Writer
import SchemaDecl.Loading
import SchemaDecl.Main
import SchemaDecl.Name
import SchemaDecl.Number.Binary64
import SchemaDecl.Number.Numeral
import SchemaDecl.Number.Shortest
import SchemaDecl.Paging.Follow
import SchemaDecl.Paging.Lift
import SchemaDecl.Paging.Page
import SchemaDecl.Program
import SchemaDecl.Proofs.Calendar
import SchemaDecl.Proofs.Client
import SchemaDecl.Proofs.Definition.Circle
import SchemaDecl.Proofs.Definition.Induction
import SchemaDecl.Proofs.Definition.Keys
import SchemaDecl.Proofs.Definition.Notes
import SchemaDecl.Proofs.Definition.Plain
import SchemaDecl.Proofs.Definition.Pruning
import SchemaDecl.Proofs.Definition.References
import SchemaDecl.Proofs.Definition.Slots
import SchemaDecl.Proofs.Definition.Spelling
import SchemaDecl.Proofs.Document.Names
import SchemaDecl.Proofs.Document.Plain
import SchemaDecl.Proofs.Document.Pruning
import SchemaDecl.Proofs.Document.Sections
import SchemaDecl.Proofs.Document.Spelling
import SchemaDecl.Proofs.Document.Wrapping
import SchemaDecl.Proofs.Emission.Documentation
import SchemaDecl.Proofs.Emission.Imports
import SchemaDecl.Proofs.Files.Path
import SchemaDecl.Proofs.Files.Tree
import SchemaDecl.Proofs.FirstSeen
import SchemaDecl.Proofs.Generation.Causes
import SchemaDecl.Proofs.Generation.Dangling
import SchemaDecl.Proofs.Generation.Documentation
import SchemaDecl.Proofs.Generation.Exports
import SchemaDecl.Proofs.Generation.Files
import SchemaDecl.Proofs.Generation.Imports
import SchemaDecl.Proofs.Generation.Insertion
import SchemaDecl.Proofs.Generation.Members
import SchemaDecl.Proofs.Generation.Naming
import SchemaDecl.Proofs.Generation.Order
import SchemaDecl.Proofs.Generation.Outcome
import SchemaDecl.Proofs.Generation.Outline
import SchemaDecl.Proofs.Generation.Policies
import SchemaDecl.Proofs.Generation.Rerun
import SchemaDecl.Proofs.Generation.Resaving
import SchemaDecl.Proofs.Generation.Spelling
import SchemaDecl.Proofs.Generation.Tags
import SchemaDecl.Proofs.Http.Exchange
import SchemaDecl.Proofs.Identifier.Fresh
import SchemaDecl.Proofs.Identifier.Shape
import SchemaDecl.Proofs.Identifier.Words
import SchemaDecl.Proofs.Inspection
import SchemaDecl.Proofs.Inspection.Kind
import SchemaDecl.Proofs.Inspection.Listing
import SchemaDecl.Proofs.Json.Numerals
import SchemaDecl.Proofs.Json.OneLine
import SchemaDecl.Proofs.Json.Quoted
import SchemaDecl.Proofs.Json.Reading
import SchemaDecl.Proofs.Json.RoundTrip
import SchemaDecl.Proofs.Json.Writing
import SchemaDecl.Proofs.Keyed
import SchemaDecl.Proofs.Loading
import SchemaDecl.Proofs.Outcomes
import SchemaDecl.Proofs.Paging.Envelope
import SchemaDecl.Proofs.Paging.Journey
import SchemaDecl.Proofs.Printing
import SchemaDecl.Proofs.Program
import SchemaDecl.Proofs.Python.ClassBody
import SchemaDecl.Proofs.Python.Closure
import SchemaDecl.Proofs.Python.Docstring
import SchemaDecl.Proofs.Python.Enumeration
import SchemaDecl.Proofs.Python.Keys
import SchemaDecl.Proofs.Python.Layout
import SchemaDecl.Proofs.Python.Needs
import SchemaDecl.Proofs.Python.Pieces
import SchemaDecl.Proofs.Python.Remarks
import SchemaDecl.Proofs.Python.Spelling
import SchemaDecl.Proofs.Refusals
import SchemaDecl.Proofs.Registry.Build
import SchemaDecl.Proofs.Registry.Decoding
import SchemaDecl.Proofs.Registry.Distinct
import SchemaDecl.Proofs.Registry.Enumerated
import SchemaDecl.Proofs.Registry.History
import SchemaDecl.Proofs.Registry.Lock
import SchemaDecl.Proofs.Registry.Numbering
import SchemaDecl.Proofs.Returns
import SchemaDecl.Proofs.Storage.Atomic
import SchemaDecl.Proofs.Storage.Faults
import SchemaDecl.Proofs.Storage.Lock
import SchemaDecl.Proofs.Storage.Paving
import SchemaDecl.Proofs.Storage.Replacing
import SchemaDecl.Proofs.Storage.Saving
import SchemaDecl.Proofs.Synthesis.Agreement
import SchemaDecl.Proofs.Synthesis.Dependencies
import SchemaDecl.Proofs.Synthesis.Documentation
import SchemaDecl.Proofs.Synthesis.Faults
import SchemaDecl.Proofs.Synthesis.Leaves
import SchemaDecl.Proofs.Synthesis.Membership
import SchemaDecl.Proofs.Synthesis.References
import SchemaDecl.Proofs.Synthesis.Rules
import SchemaDecl.Proofs.Synthesis.Visits
import SchemaDecl.Proofs.Target.Literal
import SchemaDecl.Proofs.Target.Merging
import SchemaDecl.Proofs.Target.Strings
import SchemaDecl.Proofs.Text.Cutting
import SchemaDecl.Proofs.Text.Decomposition
import SchemaDecl.Proofs.Text.Lines
import SchemaDecl.Proofs.Text.Normalization
import SchemaDecl.Proofs.Text.Utf8
import SchemaDecl.Proofs.TypeExpr.Canonical
import SchemaDecl.Proofs.TypeScript.Comments
import SchemaDecl.Proofs.TypeScript.Containment
import SchemaDecl.Proofs.TypeScript.Denotation
import SchemaDecl.Proofs.TypeScript.Fidelity
import SchemaDecl.Proofs.TypeScript.Operands
import SchemaDecl.Proofs.TypeScript.Reader
import SchemaDecl.Proofs.TypeScript.Spelling
import SchemaDecl.Proofs.TypeScript.Tokens
import SchemaDecl.Proofs.Value.Part
import SchemaDecl.Proofs.Work
import SchemaDecl.Proofs.World
import SchemaDecl.Proofs.Yaml.Composing
import SchemaDecl.Proofs.Yaml.Constructing
import SchemaDecl.Proofs.Yaml.Scanning
import SchemaDecl.Proofs.Yaml.Tokens
import SchemaDecl.Registry
import SchemaDecl.Registry.Lock
import SchemaDecl.Report
import SchemaDecl.Run
import SchemaDecl.Settings
import SchemaDecl.Settings.Sources
import SchemaDecl.Source
import SchemaDecl.Storage
import SchemaDecl.Synthesis
import SchemaDecl.Target
import SchemaDecl.Target.Python
import SchemaDecl.Target.TypeScript
import SchemaDecl.Text.Ascii
import SchemaDecl.Text.Base64
import SchemaDecl.Text.Blank
import SchemaDecl.Text.Case
import SchemaDecl.Text.Cells
import SchemaDecl.Text.CharSet
import SchemaDecl.Text.Charset
import SchemaDecl.Text.CodePage
import SchemaDecl.Text.Combining
import SchemaDecl.Text.Fold
import SchemaDecl.Text.Identifier
import SchemaDecl.Text.Printable
import SchemaDecl.Text.Punycode
import SchemaDecl.Text.Quoted
import SchemaDecl.Text.Seven
import SchemaDecl.Text.Utf8
import SchemaDecl.Text.Wide
import SchemaDecl.TypeExpr
import SchemaDecl.Value
import SchemaDecl.Value.Display
import SchemaDecl.Value.Part
import SchemaDecl.Work
import SchemaDecl.World
import SchemaDecl.Yaml.Cursor
import SchemaDecl.Yaml.Layout
import SchemaDecl.Yaml.Node
import SchemaDecl.Yaml.Reader
import SchemaDecl.Yaml.Scalar
import SchemaDecl.Yaml.Token
