import Memberwise.Text.Ranges
import Memberwise.Text.Blank
import Memberwise.Text.Alphanumeric
import Memberwise.Text.Hexadecimal
import Memberwise.Text.Identifier
import Memberwise.Text.Printable
import Memberwise.Text.Quoted
import Memberwise.Dart.Type
import Memberwise.Dart.Literal
import Memberwise.Dart.Expression
import Memberwise.Signature.Arguments
import Memberwise.Signature.Reading
import Memberwise.Config
import Memberwise.Field
import Memberwise.Conversion
import Memberwise.Layout
import Memberwise.Template.Basic
import Memberwise.Template.Mapping
import Memberwise.Template.Update
import Memberwise.Template.Description
import Memberwise.Request
import Memberwise.Decimal.Binary
import Memberwise.Decimal.Shortest
import Memberwise.Json.Fault
import Memberwise.Json.Reader
import Memberwise.Json.Characters
import Memberwise.Json.Number
import Memberwise.Json.Skip
import Memberwise.Json.Record
import Memberwise.Json.Printer
import Memberwise.Files.Error
import Memberwise.Files.Path
import Memberwise.Files.Spot
import Memberwise.Files.Tree
import Memberwise.Files.Lookup
import Memberwise.Document.Basic
import Memberwise.Document.Config
import Memberwise.Document.Request
import Memberwise.Glob.Pattern
import Memberwise.Glob.Expansion
import Memberwise.Command.Arguments
import Memberwise.Regex.Primitive
import Memberwise.Regex.Bracket
import Memberwise.Regex.Reading
import Memberwise.Command.Filter
import Memberwise.Command.Log
import Memberwise.Command.Output
import Memberwise.Command.Dump
import Memberwise.Command.Run
import Memberwise.Main
import Memberwise.Proofs.Text.Trimming
import Memberwise.Proofs.Text.Identifiers
import Memberwise.Proofs.Text.LineEnds
import Memberwise.Proofs.Signature.Brackets
import Memberwise.Proofs.Signature.Levels
import Memberwise.Proofs.Signature.Spelling
import Memberwise.Proofs.Signature.Stability
import Memberwise.Proofs.Signature.Models
import Memberwise.Proofs.Conversion.Names
import Memberwise.Proofs.Conversion.Distinction
import Memberwise.Proofs.Dart.Value
import Memberwise.Proofs.Dart.Evaluation
import Memberwise.Proofs.Dart.Reading
import Memberwise.Proofs.Dart.Grammar
import Memberwise.Proofs.Conversion.Restoration
import Memberwise.Proofs.Conversion.WellFormed
import Memberwise.Proofs.Conversion.RoundTrip
import Memberwise.Proofs.Dart.Vocabulary
import Memberwise.Proofs.Request.Refusal
import Memberwise.Proofs.Conversion.Vocabulary
import Memberwise.Proofs.Template.Lines
import Memberwise.Proofs.Dart.Scoping
import Memberwise.Proofs.Template.Scoping
import Memberwise.Proofs.Dart.Nesting
import Memberwise.Proofs.Template.Nesting
import Memberwise.Proofs.Conversion.Settings
import Memberwise.Proofs.Template.Frame
import Memberwise.Proofs.Template.Options
import Memberwise.Proofs.Template.Replacement
import Memberwise.Proofs.Command.Loading
import Memberwise.Proofs.Command.Outcome
import Memberwise.Proofs.Json.Delimiting
import Memberwise.Proofs.Json.Records
import Memberwise.Proofs.Document.Requests
import Memberwise.Proofs.Files.Writing
import Memberwise.Proofs.Files.Places
import Memberwise.Proofs.Command.Spreading
import Memberwise.Proofs.Conversion.Keys
import Memberwise.Proofs.Json.Grammar
import Memberwise.Proofs.Json.Strings
import Memberwise.Proofs.Json.Values
import Memberwise.Proofs.Json.Reading
import Memberwise.Proofs.Json.Parts
import Memberwise.Proofs.Document.Spelling
import Memberwise.Proofs.Document.Misfits
import Memberwise.Proofs.Json.Decoding
import Memberwise.Proofs.Json.Choices
import Memberwise.Proofs.Document.Overlay
import Memberwise.Proofs.Command.Formats
import Memberwise.Proofs.Command.Classification
import Memberwise.Proofs.Command.Kinds
import Memberwise.Proofs.Signature.Recovery
import Memberwise.Proofs.Signature.Partition
import Memberwise.Proofs.Dart.Interpolation
import Memberwise.Proofs.Template.Printing
import Memberwise.Proofs.Conversion.Closures
import Memberwise.Proofs.Template.Fragments
import Memberwise.Proofs.Document.Prefixes
import Memberwise.Proofs.Text.Pattern
import Memberwise.Proofs.Request.Validation
import Memberwise.Proofs.Request.Distinct
import Memberwise.Proofs.Document.Shorthand
import Memberwise.Proofs.Dart.Execution
import Memberwise.Proofs.Template.Updating
import Memberwise.Proofs.Signature.Size
import Memberwise.Proofs.Conversion.Sources
import Memberwise.Proofs.Template.Outline
