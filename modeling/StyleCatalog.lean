import StyleCatalog.Main
import StyleCatalog.Text.Order
import StyleCatalog.Proofs.Text.Trimming
import StyleCatalog.Proofs.Text.Lines
import StyleCatalog.Proofs.Text.LineEnds
import StyleCatalog.Proofs.Text.JoinedLines
import StyleCatalog.Proofs.Text.Lowering
import StyleCatalog.Proofs.Text.Replacing
import StyleCatalog.Proofs.Text.Numerals
import StyleCatalog.Proofs.Reference.ChunkOrder
import StyleCatalog.Proofs.Reference.Order
import StyleCatalog.Proofs.Reference.Chunks
import StyleCatalog.Proofs.Reference.Comparison
import StyleCatalog.Proofs.Reference.Sorting
import StyleCatalog.Proofs.Reference.Hierarchy
import StyleCatalog.Proofs.Reference.Walk
import StyleCatalog.Proofs.Reference.Numbering
import StyleCatalog.Proofs.Reference.Resolution
import StyleCatalog.Proofs.Reference.Renumbering
import StyleCatalog.Proofs.Reference.Branches
import StyleCatalog.Proofs.Reference.DisplayOrder
import StyleCatalog.Proofs.Reference.Reweighing
import StyleCatalog.Proofs.Reference.Counters
import StyleCatalog.Proofs.Catalog.FileOrder
import StyleCatalog.Proofs.Stylesheet.Reading
import StyleCatalog.Proofs.Stylesheet.Parts
import StyleCatalog.Proofs.Stylesheet.Dedent
import StyleCatalog.Proofs.Stylesheet.Writing
import StyleCatalog.Proofs.Stylesheet.RoundTrip
import StyleCatalog.Proofs.Comment.Paragraphs
import StyleCatalog.Proofs.Comment.Weights
import StyleCatalog.Proofs.Comment.Declarations
import StyleCatalog.Proofs.Comment.Writing
import StyleCatalog.Proofs.Comment.RoundTrip
import StyleCatalog.Proofs.Comment.Joining
import StyleCatalog.Proofs.Comment.Detection
import StyleCatalog.Proofs.Comment.Kinds
import StyleCatalog.Proofs.Json.RoundTrip
import StyleCatalog.Proofs.Section.Record
import StyleCatalog.Proofs.Catalog.Records
import StyleCatalog.Proofs.Comment.References
import StyleCatalog.Proofs.Section.Building
import StyleCatalog.Proofs.Section.PlainTexts
import StyleCatalog.Proofs.Comment.Blanks
import StyleCatalog.Proofs.Comment.Parameters
import StyleCatalog.Proofs.Comment.Cleaning
import StyleCatalog.Proofs.Comment.Runs
import StyleCatalog.Proofs.Comment.NormalForm
import StyleCatalog.Proofs.Comment.CleanParagraphs
import StyleCatalog.Proofs.Comment.Stanzas
import StyleCatalog.Proofs.Section.ParameterParagraphs
import StyleCatalog.Proofs.Reference.Relabeling
import StyleCatalog.Proofs.Catalog.Merging
import StyleCatalog.Proofs.Catalog.Agreement
import StyleCatalog.Proofs.Catalog.Rendering
import StyleCatalog.Proofs.Stylesheet.LineEnds
import StyleCatalog.Proofs.Stylesheet.Characters
import StyleCatalog.Proofs.Catalog.LineEnds
import StyleCatalog.Proofs.Stylesheet.Closers
import StyleCatalog.Proofs.Stylesheet.Gutters
import StyleCatalog.Proofs.Stylesheet.Indentation
import StyleCatalog.Proofs.Stylesheet.ClosingLines
import StyleCatalog.Proofs.Catalog.Log
import StyleCatalog.Proofs.Catalog.Scanning
import StyleCatalog.Proofs.Command.Outcomes
import StyleCatalog.Proofs.Markdown.Unwrapping
