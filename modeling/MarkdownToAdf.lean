import MarkdownToAdf.Main
import MarkdownToAdf.Proofs.Adf.NormalForm
import MarkdownToAdf.Proofs.Adf.WireForm
import MarkdownToAdf.Proofs.Cli.Options
import MarkdownToAdf.Proofs.Cli.Run
import MarkdownToAdf.Proofs.Config.Loading
import MarkdownToAdf.Proofs.Conversion.JoinedOnce
import MarkdownToAdf.Proofs.Conversion.LeftOut
import MarkdownToAdf.Proofs.Conversion.Recutting
import MarkdownToAdf.Proofs.Conversion.WellFormed
import MarkdownToAdf.Proofs.Files.Directory
import MarkdownToAdf.Proofs.Files.FileName
import MarkdownToAdf.Proofs.Format.Acceptance
import MarkdownToAdf.Proofs.Format.Detection
import MarkdownToAdf.Proofs.Format.TreeText
import MarkdownToAdf.Proofs.Json.Spacing
import MarkdownToAdf.Proofs.Markdown.AllowedOutlines
import MarkdownToAdf.Proofs.Markdown.OneLine
import MarkdownToAdf.Proofs.Markdown.ScannedSpans
import MarkdownToAdf.Proofs.Markdown.WrittenLinks
import MarkdownToAdf.Proofs.Source.AllowedDocuments
import MarkdownToAdf.Proofs.Source.FencedCode
import MarkdownToAdf.Proofs.Source.LineBreaks
import MarkdownToAdf.Proofs.Source.LineEnds
import MarkdownToAdf.Proofs.Source.LinePlaces
import MarkdownToAdf.Proofs.Source.RepeatedMarks
import MarkdownToAdf.Proofs.Source.ReplacedNulls
import MarkdownToAdf.Proofs.Source.SameLines
import MarkdownToAdf.Proofs.Source.TreeLines
import MarkdownToAdf.Proofs.Source.VisibleText
import MarkdownToAdf.Proofs.Source.WrittenLinks
import MarkdownToAdf.Proofs.Text.Utf8
