import SignatureBridge.Command.Arguments
import SignatureBridge.Command.Batch
import SignatureBridge.Command.Reach
import SignatureBridge.Command.Run
import SignatureBridge.Command.Usage
import SignatureBridge.Declaration.Identifier
import SignatureBridge.Declaration.Literal
import SignatureBridge.Declaration.Numeral
import SignatureBridge.Declaration.Parameter
import SignatureBridge.Declaration.StringLiteral
import SignatureBridge.Declaration.TypeExpr
import SignatureBridge.Host.Basic
import SignatureBridge.Host.Configuration
import SignatureBridge.Host.Failure
import SignatureBridge.Host.Logging
import SignatureBridge.Host.Signatures
import SignatureBridge.Journal.Moment
import SignatureBridge.Journal.Record
import SignatureBridge.Journal.Timing
import SignatureBridge.Json.Reader
import SignatureBridge.Json.Value
import SignatureBridge.Main
import SignatureBridge.Number.Binary64
import SignatureBridge.Number.Error
import SignatureBridge.Number.Fixed
import SignatureBridge.Number.Radix
import SignatureBridge.Number.Reading
import SignatureBridge.Number.Shortest
import SignatureBridge.Proofs.Command.Batching
import SignatureBridge.Proofs.Command.Emission
import SignatureBridge.Proofs.Command.EnvironmentFile
import SignatureBridge.Proofs.Command.Outcomes
import SignatureBridge.Proofs.Command.Overriding
import SignatureBridge.Proofs.Command.Replacing
import SignatureBridge.Proofs.Command.Running
import SignatureBridge.Proofs.Command.Selecting
import SignatureBridge.Proofs.Command.Stopping
import SignatureBridge.Proofs.Command.Writing
import SignatureBridge.Proofs.Declaration.CanonicalNumerals
import SignatureBridge.Proofs.Declaration.IdentifierForms
import SignatureBridge.Proofs.Declaration.IdentifierLetters
import SignatureBridge.Proofs.Declaration.IntegerTyping
import SignatureBridge.Proofs.Declaration.NumeralDigits
import SignatureBridge.Proofs.Declaration.StringLexing
import SignatureBridge.Proofs.Declaration.TypeGrammar
import SignatureBridge.Proofs.Declaration.TypeWords
import SignatureBridge.Proofs.Host.Ledger
import SignatureBridge.Proofs.Host.LoggingStates
import SignatureBridge.Proofs.Host.Reports
import SignatureBridge.Proofs.Json.IntegerSize
import SignatureBridge.Proofs.Number.Digits
import SignatureBridge.Proofs.Number.DoubleRange
import SignatureBridge.Proofs.Reflection.Assembling
import SignatureBridge.Proofs.Reflection.Declaring
import SignatureBridge.Proofs.Reflection.Decoding
import SignatureBridge.Proofs.Reflection.Forcing
import SignatureBridge.Proofs.Reflection.HeadNames
import SignatureBridge.Proofs.Reflection.Interchange
import SignatureBridge.Proofs.Reflection.LiteralReading
import SignatureBridge.Proofs.Reflection.Nullability
import SignatureBridge.Proofs.Reflection.Ordering
import SignatureBridge.Proofs.Reflection.SnakeCase
import SignatureBridge.Proofs.Reflection.TypeImage
import SignatureBridge.Proofs.Reflection.TypeRange
import SignatureBridge.Proofs.Settings.EnvFileLoading
import SignatureBridge.Proofs.Settings.Precedence
import SignatureBridge.Proofs.Signature.Defects
import SignatureBridge.Proofs.Signature.Fields
import SignatureBridge.Proofs.Signature.PrintedAnnotations
import SignatureBridge.Proofs.Text.Cutting
import SignatureBridge.Proofs.Text.Delimited
import SignatureBridge.Reflection.Annotation
import SignatureBridge.Reflection.Default
import SignatureBridge.Reflection.Notes
import SignatureBridge.Reflection.Parameter
import SignatureBridge.Settings.Config
import SignatureBridge.Settings.DirectoryChoice
import SignatureBridge.Settings.EnvFile
import SignatureBridge.Settings.Environment
import SignatureBridge.Signature.Annotation
import SignatureBridge.Signature.Constant
import SignatureBridge.Signature.Document
import SignatureBridge.Signature.Parameter
import SignatureBridge.Storage.FileName
import SignatureBridge.Storage.FileSystem
import SignatureBridge.Storage.Path
import SignatureBridge.Text.Basic
import SignatureBridge.Text.Blank
import SignatureBridge.Text.Digit
import SignatureBridge.Text.LetterCase
import SignatureBridge.Text.NameLetter
import SignatureBridge.Text.Printable
import SignatureBridge.Text.Quoted
import SignatureBridge.Text.Template
import SignatureBridge.Text.Utf8
