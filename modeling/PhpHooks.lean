import PhpHooks.Text.Basic
import PhpHooks.Text.Blank
import PhpHooks.Text.Digit
import PhpHooks.Text.Word
import PhpHooks.Text.Printable
import PhpHooks.Text.Lowercase
import PhpHooks.Text.Quoted
import PhpHooks.Text.Utf8
import PhpHooks.Number.Numeral
import PhpHooks.Number.Double
import PhpHooks.Number.Shortest
import PhpHooks.TypeExpr.Basic
import PhpHooks.TypeExpr.Printer
import PhpHooks.TypeExpr.Lexeme
import PhpHooks.TypeExpr.Parser
import PhpHooks.TypeExpr.Reading
import PhpHooks.DocBlock.Basic
import PhpHooks.DocBlock.ParamTag
import PhpHooks.DocBlock.ArrayShape
import PhpHooks.Hook.Kind
import PhpHooks.Hook.Registry
import PhpHooks.Json.Basic
import PhpHooks.Json.Reader
import PhpHooks.Json.Printer
import PhpHooks.Location
import PhpHooks.Log.Event
import PhpHooks.Corpus.Descriptor
import PhpHooks.Corpus.Loading
import PhpHooks.Source.Node
import PhpHooks.Source.Basic
import PhpHooks.Source.Literal
import PhpHooks.Source.Evident
import PhpHooks.Source.Call
import PhpHooks.Source.Walk
import PhpHooks.Discovery.DocComments
import PhpHooks.Discovery.CallSites
import PhpHooks.Diagnostic
import PhpHooks.Files.Path
import PhpHooks.Files.Tree
import PhpHooks.Registration
import PhpHooks.Corpus.Bundled
import PhpHooks.Files.Discovery
import PhpHooks.Yaml.Cursor
import PhpHooks.Yaml.Reader
import PhpHooks.Log.Output
import PhpHooks.Session
import PhpHooks.CommandLine.Arguments
import PhpHooks.CommandLine.Run
import PhpHooks.Main
import PhpHooks.Number.Arithmetic
import PhpHooks.Text.Glyph
import PhpHooks.Proofs.RegistryRuns
import PhpHooks.Proofs.TypeExpr.Grammar
import PhpHooks.Proofs.TypeExpr.Completeness
import PhpHooks.Proofs.TypeExpr.Soundness
import PhpHooks.Proofs.TypeExpr.Acceptance
import PhpHooks.Proofs.Text.Classes
import PhpHooks.Proofs.TypeExpr.Structure
import PhpHooks.Proofs.TypeExpr.Lexing
import PhpHooks.Proofs.TypeExpr.Formed
import PhpHooks.Proofs.TypeExpr.Hoisting
import PhpHooks.Proofs.TypeExpr.Spelling
import PhpHooks.Proofs.TypeExpr.RoundTrip
import PhpHooks.Proofs.Number.Numerals
import PhpHooks.Proofs.Source.PreOrder
import PhpHooks.Proofs.Corpus.Announcements
import PhpHooks.Proofs.Session.ClosedForm
import PhpHooks.Proofs.TypeExpr.WellFormed
import PhpHooks.Proofs.Session.Operations
import PhpHooks.Proofs.Session.StoredTypes
import PhpHooks.Proofs.Session.Reanalysis
import PhpHooks.Proofs.DocBlock.Nesting
import PhpHooks.Proofs.DocBlock.ParamLines
import PhpHooks.Proofs.DocBlock.PrintedTypes
import PhpHooks.Proofs.Discovery.MalformedTypes
import PhpHooks.Proofs.Source.Positions
import PhpHooks.Proofs.Source.Attachment
import PhpHooks.Proofs.Discovery.Locality
import PhpHooks.Proofs.Session.Observation
import PhpHooks.Proofs.TypeExpr.Concatenation
import PhpHooks.Proofs.TypeExpr.Sameness
import PhpHooks.Proofs.Corpus.Alignment
import PhpHooks.Proofs.TypeExpr.Fragments
import PhpHooks.Proofs.TypeExpr.Pairing
import PhpHooks.Proofs.DocBlock.AcceptedTypes
import PhpHooks.Proofs.DocBlock.Filing
import PhpHooks.Proofs.DocBlock.Layout
import PhpHooks.Proofs.DocBlock.TypeLines
import PhpHooks.Proofs.Source.StringLiterals
import PhpHooks.Proofs.Files.Walk
import PhpHooks.Proofs.Number.PlaceValue
import PhpHooks.Proofs.Source.IntegerLiterals
import PhpHooks.Proofs.TypeExpr.Placement
import PhpHooks.Proofs.Source.NumericEscapes
import PhpHooks.Proofs.DocBlock.Division
