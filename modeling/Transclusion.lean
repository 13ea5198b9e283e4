import Transclusion.Archive
import Transclusion.BlockMap
import Transclusion.Coercion
import Transclusion.Command.Arguments
import Transclusion.Command.Form
import Transclusion.Command.Help
import Transclusion.Command.Request
import Transclusion.Command.Run
import Transclusion.Command.Work
import Transclusion.Comment
import Transclusion.Cutting
import Transclusion.Definition
import Transclusion.Document
import Transclusion.Engine
import Transclusion.Entries
import Transclusion.Extraction
import Transclusion.Fault
import Transclusion.FileTree
import Transclusion.Formatting
import Transclusion.Grammar
import Transclusion.GrammarRules
import Transclusion.Journal
import Transclusion.Json
import Transclusion.Main
import Transclusion.Marker
import Transclusion.Merge
import Transclusion.Number.Arithmetic
import Transclusion.Number.Binary64
import Transclusion.Number.Shortest
import Transclusion.Path
import Transclusion.Publication
import Transclusion.Rendering
import Transclusion.Resolution
import Transclusion.Session
import Transclusion.Settings.Layers
import Transclusion.Settings.Schema
import Transclusion.Settings.Sections
import Transclusion.Substitution
import Transclusion.Surroundings
import Transclusion.Template.Access
import Transclusion.Template.Calculation
import Transclusion.Template.Escape
import Transclusion.Template.Evaluation
import Transclusion.Template.Expression
import Transclusion.Template.Fault
import Transclusion.Template.Folder
import Transclusion.Template.Helping
import Transclusion.Template.Item
import Transclusion.Template.Layout
import Transclusion.Template.NamePart
import Transclusion.Template.NamePattern
import Transclusion.Template.Numeral
import Transclusion.Template.Operation
import Transclusion.Template.Reading
import Transclusion.Template.Token
import Transclusion.Text.Alphanumeric
import Transclusion.Text.Blank
import Transclusion.Text.CaseVariant
import Transclusion.Text.Casefold
import Transclusion.Text.Digit
import Transclusion.Text.Identifier
import Transclusion.Text.Lowercase
import Transclusion.Text.Printable
import Transclusion.Text.Quoted
import Transclusion.Text.Ranges
import Transclusion.Text.Split
import Transclusion.Text.Uppercase
import Transclusion.Text.Utf8
import Transclusion.Uniqueness
import Transclusion.Value
import Transclusion.Value.Written
import Transclusion.Yaml.Fault
import Transclusion.Yaml.Levels
import Transclusion.Yaml.Node
import Transclusion.Yaml.Place
import Transclusion.Yaml.Reading
import Transclusion.Yaml.Scalar
import Transclusion.Yaml.ScalarStyle
import Transclusion.Yaml.ScalarText
import Transclusion.Yaml.Sheet
import Transclusion.Yaml.Token
import Transclusion.Yaml.Writing
import Transclusion.YamlFile
import Transclusion.Proofs.InsertionPolicy
import Transclusion.Proofs.BlockOrigins
import Transclusion.Proofs.Entries
import Transclusion.Proofs.DisplayKeys
import Transclusion.Proofs.Documents
import Transclusion.Proofs.Translations
import Transclusion.Proofs.Doubling
import Transclusion.Proofs.HiddenDocuments
import Transclusion.Proofs.Lines
import Transclusion.Proofs.PairedRuns
import Transclusion.Proofs.Resolution
import Transclusion.Proofs.RoundTrip
import Transclusion.Proofs.Uniqueness
import Transclusion.Proofs.References
import Transclusion.Proofs.RenderGuard
import Transclusion.Proofs.ShownNames
import Transclusion.Proofs.Respelling
import Transclusion.Proofs.RespelledMarkers
import Transclusion.Proofs.RespelledDefinitions
import Transclusion.Proofs.UncrossedTexts
import Transclusion.Proofs.BlockContents
import Transclusion.Proofs.CollisionRewrites
import Transclusion.Proofs.ShowSpans
import Transclusion.Proofs.RenderReport
import Transclusion.Proofs.AcceptedGrammar
import Transclusion.Proofs.Markup
import Transclusion.Proofs.Wrappers
import Transclusion.Proofs.Signs
import Transclusion.Proofs.QuickTests
import Transclusion.Proofs.FileTrees
import Transclusion.Proofs.Octets
import Transclusion.Proofs.WrittenDocuments
import Transclusion.Proofs.FolderShelf
import Transclusion.Proofs.Interchange
import Transclusion.Proofs.LoadedDocuments
import Transclusion.Proofs.ListedFiles
import Transclusion.Proofs.Yaml.Places
import Transclusion.Proofs.Yaml.FaultCauses
import Transclusion.Proofs.Yaml.TokenFaults
import Transclusion.Proofs.Yaml.NodeFaults
import Transclusion.Proofs.YamlReads
import Transclusion.Proofs.FolderReads
import Transclusion.Proofs.SettingsReads
import Transclusion.Proofs.Yaml.QuotedScalars
import Transclusion.Proofs.Yaml.QuotedForms
import Transclusion.Proofs.Yaml.PlainScalars
import Transclusion.Proofs.Yaml.BlockScalars
import Transclusion.Proofs.Yaml.TokenRuns
import Transclusion.Proofs.Yaml.NextTokens
import Transclusion.Proofs.Yaml.TextRuns
import Transclusion.Proofs.Yaml.Sheets
import Transclusion.Proofs.Yaml.QuotedWriting
import Transclusion.Proofs.Yaml.PlainWriting
import Transclusion.Proofs.Yaml.LiteralWriting
import Transclusion.Proofs.Yaml.CleanPages
import Transclusion.Proofs.Yaml.ScalarForms
import Transclusion.Proofs.Yaml.NodeTokens
import Transclusion.Proofs.Yaml.Records
import Transclusion.Proofs.Yaml.RecordPages
import Transclusion.Proofs.Yaml.RecordWriting
import Transclusion.Proofs.Yaml.RecordReads
import Transclusion.Proofs.SettledDocuments
import Transclusion.Proofs.FolderWrites
import Transclusion.Proofs.SavedDocuments
import Transclusion.Proofs.GrammarSettings
import Transclusion.Proofs.Layering
import Transclusion.Proofs.FailedSaves
import Transclusion.Proofs.KeyedReads
import Transclusion.Proofs.OverrideFaults
import Transclusion.Proofs.Precedence
import Transclusion.Proofs.DoubledTokens
import Transclusion.Proofs.CommutingSaves
import Transclusion.Proofs.LanguageArguments
import Transclusion.Proofs.OmittedLanguage
import Transclusion.Proofs.AppendedFiles
import Transclusion.Proofs.JournalRuns
import Transclusion.Proofs.Comments
import Transclusion.Proofs.ReorderedDocuments
import Transclusion.Proofs.SameNames
import Transclusion.Proofs.Recasing
import Transclusion.Proofs.RecasedShows
