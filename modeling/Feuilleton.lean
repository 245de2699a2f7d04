import Feuilleton.Text.Blank
import Feuilleton.Text.Digit
import Feuilleton.Text.Word
import Feuilleton.Text.Lowercase
import Feuilleton.Text.Search
import Feuilleton.Text.Quoted
import Feuilleton.OrderedMap
import Feuilleton.Number.Shortest
import Feuilleton.Json.Printer
import Feuilleton.Page.Basic
import Feuilleton.Json.Reader
import Feuilleton.Grammar.Codec
import Feuilleton.Work.Codec
import Feuilleton.Markup.EventCodec
import Feuilleton.Vocabulary.InfoField
import Feuilleton.Vocabulary.Price
import Feuilleton.Vocabulary.TimeUnit
import Feuilleton.Calendar.Release
import Feuilleton.Extraction.Outcome
import Feuilleton.Address.Catalogue
import Feuilleton.Address.Relative
import Feuilleton.Failure
import Feuilleton.Access.Guard
import Feuilleton.Listing.Page
import Feuilleton.ChapterPage.Content
import Feuilleton.Markup.Nesting
import Feuilleton.Session.Basic
import Feuilleton.Grammar.Store
import Feuilleton.Session.Logging
import Feuilleton.Session.Preferences
import Feuilleton.Main
import Feuilleton.Proofs.Extraction.Run
import Feuilleton.Proofs.Extraction.Chapters
import Feuilleton.Proofs.Extraction.Coherence
import Feuilleton.Proofs.Markup.Forest
import Feuilleton.Proofs.Extraction.Context
import Feuilleton.Proofs.Extraction.Containment
import Feuilleton.Proofs.Extraction.ListItem
import Feuilleton.Proofs.Extraction.ThemeList
import Feuilleton.Proofs.Extraction.HiddenOutcome
import Feuilleton.Proofs.Extraction.Prose
import Feuilleton.Proofs.Extraction.Output
import Feuilleton.Proofs.Extraction.Overlong
import Feuilleton.Proofs.Extraction.AppendedList
import Feuilleton.Proofs.Extraction.Blocks
import Feuilleton.Proofs.Extraction.Description
import Feuilleton.Proofs.Extraction.Course
import Feuilleton.Proofs.Extraction.Growth
import Feuilleton.Proofs.Text.Trimmed
import Feuilleton.Proofs.Extraction.WellFormed
import Feuilleton.Proofs.Page.Malformed
import Feuilleton.Proofs.Page.Repair
import Feuilleton.Proofs.Session.Challenge
import Feuilleton.Proofs.Session.SeparateList
import Feuilleton.Proofs.Json.RoundTrip
import Feuilleton.Proofs.Schema.RoundTrip
import Feuilleton.Proofs.Grammar.Listing
import Feuilleton.Proofs.Grammar.RoundTrip
import Feuilleton.Proofs.Session.Escape
import Feuilleton.Proofs.CommandLine.Entries
import Feuilleton.Proofs.CommandLine.Places
import Feuilleton.Proofs.Markup.RoundTrip
import Feuilleton.Proofs.Extraction.Summaries
import Feuilleton.Proofs.Extraction.SummaryEnd
import Feuilleton.Proofs.Extraction.ListEnd
import Feuilleton.Proofs.Extraction.GenreBlocks
import Feuilleton.Proofs.Extraction.InfoPairs
import Feuilleton.Proofs.Extraction.Credits
import Feuilleton.Proofs.Text.Ink
import Feuilleton.Proofs.Text.Keyed
import Feuilleton.Proofs.Extraction.InfoBlanks
import Feuilleton.Proofs.Extraction.InfoLabels
import Feuilleton.Proofs.Extraction.ItemCells
import Feuilleton.Proofs.Extraction.LastPrice
import Feuilleton.Proofs.Extraction.NameAndCover
import Feuilleton.Proofs.Extraction.Ordinals
import Feuilleton.Proofs.Extraction.WorkName
import Feuilleton.Proofs.Text.Digits
import Feuilleton.Proofs.Calendar.DayNumber
import Feuilleton.Proofs.Calendar.GoingBack
import Feuilleton.Proofs.Calendar.IsoDate
import Feuilleton.Proofs.Encoding.Label
import Feuilleton.Proofs.Encoding.Utf8
import Feuilleton.Proofs.Page.Undecodable
import Feuilleton.Proofs.Page.Stored
import Feuilleton.Proofs.Markup.Collecting
import Feuilleton.Proofs.Address.Percent
import Feuilleton.Proofs.Address.Slashes
import Feuilleton.Proofs.Template.Plain
import Feuilleton.Proofs.Address.Search
import Feuilleton.Proofs.Address.SlashRuns
import Feuilleton.Proofs.Address.Query
import Feuilleton.Proofs.Address.QueryPairs
import Feuilleton.Proofs.Address.Filters
import Feuilleton.Proofs.Address.Grouping
import Feuilleton.Proofs.Vocabulary.Padding
import Feuilleton.Proofs.Address.Relative
import Feuilleton.Proofs.Listing.TitledLinks
import Feuilleton.Proofs.Document.Pruning
import Feuilleton.Proofs.ChapterPage.StyleSheets
import Feuilleton.Proofs.ChapterPage.Paragraphs
