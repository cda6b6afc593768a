import Folio.Command
import Folio.Decimal.Shortest
import Folio.Main
import Folio.Proofs.Toc.Outline
import Folio.Toc.Decoding
import Folio.Proofs.Toc.Place
import Folio.Proofs.Markdown.Anchor
import Folio.Proofs.Highlight.CodeBlock
import Folio.Proofs.Text.Replace
import Folio.Proofs.Highlight.Passage
import Folio.Proofs.Markdown.Paragraph
import Folio.Proofs.Markdown.PlainParagraph
import Folio.Proofs.Toc.Marker
import Folio.Proofs.Template.AtOnce
import Folio.Proofs.Build
import Folio.Proofs.Text.Decode
import Folio.Proofs.Highlight.Spans
import Folio.Proofs.Markdown.RawMarkup
import Folio.Proofs.Markdown.Notes
import Folio.Proofs.Markdown.Label
import Folio.Proofs.Markdown.TamePart
import Folio.Proofs.Highlight.Page
import Folio.Proofs.Toc.Expansion
import Folio.Proofs.Files.Writing
import Folio.Proofs.Loading
import Folio.Proofs.Toc.Reading
import Folio.Proofs.Toc.Table
import Folio.Proofs.Text.Element
import Folio.Proofs.Markdown.Element
import Folio.Proofs.Markdown.BlockElement
import Folio.Proofs.Toc.Target
import Folio.Proofs.Markdown.CallFree
import Folio.Proofs.Files.Repetition
import Folio.Proofs.Rebuild
import Folio.Proofs.Toc.Section
import Folio.Proofs.Text.Balance
import Folio.Proofs.Toc.Grammar
import Folio.Proofs.CommandLine.Spelling
import Folio.Proofs.CommandLine.Reading
import Folio.Proofs.CommandLine.Accepted
import Folio.Proofs.CommandLine.Flags
import Folio.Proofs.Command
import Folio.Proofs.Highlight.Cutting
import Folio.Proofs.Highlight.SecondPass
import Folio.Proofs.Toc.Ancestor
import Folio.Proofs.Toc.Pruning
import Folio.Proofs.Text.Occurrence
import Folio.Proofs.Toc.Rendering
import Folio.Proofs.Toc.Expanded
import Folio.Proofs.Template.TableFilled
import Folio.Proofs.Files.ReadBack
import Folio.Proofs.Highlight.Label
import Folio.Proofs.Highlight.ShownCode
import Folio.Proofs.Toc.Branch
import Folio.Proofs.CommandLine.AnyOrder
import Folio.Proofs.Decoding.Record
import Folio.Proofs.Decoding.Settings
