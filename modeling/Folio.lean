import Folio.Anchor.Basic
import Folio.Anchor.Numeral
import Folio.Bytes.Base64
import Folio.Code.WrapPoint
import Folio.Document.Basic
import Folio.Document.Html
import Folio.Document.Outline
import Folio.Emphasis.Marks
import Folio.Emphasis.Splicing
import Folio.Error
import Folio.Figure.Embedding
import Folio.Figure.ImageType
import Folio.Heading.Anchoring
import Folio.Html.Entity
import Folio.Html.Escape
import Folio.Json.Reader
import Folio.Json.Value
import Folio.Json.Writer
import Folio.Markdown.Block
import Folio.Markdown.BlockStart
import Folio.Markdown.Definition
import Folio.Markdown.Delimiter
import Folio.Markdown.Event
import Folio.Markdown.HtmlTag
import Folio.Markdown.InlineText
import Folio.Markdown.Line
import Folio.Markdown.LinkTail
import Folio.Markdown.LinkText
import Folio.Markdown.Nesting
import Folio.Markdown.OpenBlock
import Folio.Markdown.Paragraph
import Folio.Markdown.ParsedPage
import Folio.Markdown.RawBlock
import Folio.Markdown.Reader
import Folio.Markdown.Reference
import Folio.Markdown.Scan
import Folio.Markdown.Span
import Folio.Markdown.TableHead
import Folio.Page.Builder
import Folio.Page.Config
import Folio.Page.Error
import Folio.Page.Json
import Folio.Page.Language
import Folio.Page.Pipeline
import Folio.Page.Source
import Folio.Proofs.Anchor.Attributes
import Folio.Proofs.Anchor.Numerals
import Folio.Proofs.Anchor.Scanning
import Folio.Proofs.Anchor.Section
import Folio.Proofs.Bytes.Base64
import Folio.Proofs.Code.WrapPoint
import Folio.Proofs.Code.Wrapping
import Folio.Proofs.Document.Change
import Folio.Proofs.Document.Congruence
import Folio.Proofs.Document.Enumeration
import Folio.Proofs.Document.Locality
import Folio.Proofs.Document.Nodes
import Folio.Proofs.Document.Order
import Folio.Proofs.Document.Picked
import Folio.Proofs.Emphasis.Bionic
import Folio.Proofs.Emphasis.Damage
import Folio.Proofs.Emphasis.Decoration
import Folio.Proofs.Emphasis.Kept
import Folio.Proofs.Emphasis.LeadingHalves
import Folio.Proofs.Emphasis.MarkedText
import Folio.Proofs.Emphasis.Paragraphs
import Folio.Proofs.Emphasis.Reach
import Folio.Proofs.Emphasis.SpanPairs
import Folio.Proofs.Emphasis.SplicePlaces
import Folio.Proofs.Emphasis.SpliceTags
import Folio.Proofs.Emphasis.Splicing
import Folio.Proofs.Emphasis.Unseen
import Folio.Proofs.Emphasis.Words
import Folio.Proofs.Emphasis.WrappedCode
import Folio.Proofs.Figure.Embedded
import Folio.Proofs.Figure.Embedding
import Folio.Proofs.Figure.Rewriting
import Folio.Proofs.Heading.Anchors
import Folio.Proofs.Html.Escaping
import Folio.Proofs.Html.Reading
import Folio.Proofs.Html.Tags
import Folio.Proofs.Html.Written
import Folio.Proofs.Json.Fields
import Folio.Proofs.Json.RoundTrip
import Folio.Proofs.Markdown.Blocks
import Folio.Proofs.Markdown.Counts
import Folio.Proofs.Markdown.HeadingEntries
import Folio.Proofs.Markdown.NestedEvents
import Folio.Proofs.Markdown.PageBlocks
import Folio.Proofs.Markdown.PageShape
import Folio.Proofs.Markdown.PageTags
import Folio.Proofs.Markdown.PendingContent
import Folio.Proofs.Markdown.PlainText
import Folio.Proofs.Markdown.QuietPage
import Folio.Proofs.Markdown.Runs
import Folio.Proofs.Markdown.ValidShape
import Folio.Proofs.Page.Balanced
import Folio.Proofs.Page.Building
import Folio.Proofs.Page.Decoration
import Folio.Proofs.Page.EnrichErrors
import Folio.Proofs.Page.Enriching
import Folio.Proofs.Page.Fallback
import Folio.Proofs.Page.Gists
import Folio.Proofs.Page.Headings
import Folio.Proofs.Page.Localized
import Folio.Proofs.Page.PassPlaces
import Folio.Proofs.Page.PassShape
import Folio.Proofs.Page.PassTags
import Folio.Proofs.Page.Report
import Folio.Proofs.Page.Rerun
import Folio.Proofs.Page.TocPlace
import Folio.Proofs.Resource.Containment
import Folio.Proofs.Resource.Paths
import Folio.Proofs.Resource.Spelling
import Folio.Proofs.Resource.Walk
import Folio.Proofs.Text.Octets
import Folio.Proofs.Toc.Counting
import Folio.Proofs.Toc.Depth
import Folio.Proofs.Toc.Finding
import Folio.Proofs.Toc.Injection
import Folio.Proofs.Toc.Links
import Folio.Proofs.Toc.Nesting
import Folio.Proofs.Toc.PassedOver
import Folio.Proofs.Toc.Place
import Folio.Proofs.Toc.Tags
import Folio.Resource.Basic
import Folio.Resource.FilePath
import Folio.Resource.FileTree
import Folio.Resource.SourceRoot
import Folio.Text.Alphanumeric
import Folio.Text.Ascii
import Folio.Text.Blank
import Folio.Text.Case
import Folio.Text.CodeSet
import Folio.Text.Printable
import Folio.Text.Punctuation
import Folio.Text.Quoted
import Folio.Toc.Basic
import Folio.Toc.Json
import Folio.Toc.Placeholder
import Folio.Token.Basic
import Folio.Token.Json
