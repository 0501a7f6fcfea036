import Catalogue.Text.Blank
import Catalogue.Text.Split
import Catalogue.Text.Case
import Catalogue.Text.Decomposition
import Catalogue.Text.Digit
import Catalogue.Text.Quoted
import Catalogue.Text.Utf8
import Catalogue.Number.Binary64
import Catalogue.Number.Decimal
import Catalogue.Json.Reader
import Catalogue.Json.Writer
import Catalogue.Timestamp.Reader
import Catalogue.Setting
import Catalogue.Choice
import Catalogue.Record.Import
import Catalogue.RecordSet
import Catalogue.Facet
import Catalogue.FileTree
import Catalogue.Library
import Catalogue.Browse
import Catalogue.Statistics
import Catalogue.TagColor
import Catalogue.Display.Report
import Catalogue.Yaml.Document
import Catalogue.Main
import Catalogue.Proofs.Query.Grouping
import Catalogue.Proofs.Query.Reading
import Catalogue.Proofs.Query.Rendering
import Catalogue.Proofs.Selection.Filtering
import Catalogue.Proofs.Browse.History
import Catalogue.Proofs.Library.Loading
import Catalogue.Proofs.Text.Containment
import Catalogue.Proofs.Query.Placement
import Catalogue.Proofs.Facet.Searching
import Catalogue.Proofs.Facet.Agreement
import Catalogue.Proofs.Browse.ClickedTag
import Catalogue.Proofs.Query.Composition
import Catalogue.Proofs.Page
import Catalogue.Proofs.Library.Holding
import Catalogue.Proofs.Selection.Ties
import Catalogue.Proofs.Library.Faults
import Catalogue.Proofs.Library.Source
import Catalogue.Proofs.Statistics.Agreement
import Catalogue.Proofs.Statistics.Reordering
import Catalogue.Proofs.TagColor
import Catalogue.Proofs.Library.Export
import Catalogue.Proofs.Config.Precedence
import Catalogue.Proofs.Selection.Chronology
import Catalogue.Proofs.Page.Count
import Catalogue.Proofs.Query.Canonical
import Catalogue.Proofs.Query.LetterCase
import Catalogue.Proofs.Query.Exclusion
import Catalogue.Proofs.Browse.Toggling
import Catalogue.Proofs.Library.Content
import Catalogue.Proofs.Setting.Merging
import Catalogue.Proofs.Selection.Formats
import Catalogue.Proofs.CommandLine.Search
import Catalogue.Proofs.Collation.Accents
import Catalogue.Proofs.Selection.Alphabetical
import Catalogue.Proofs.Display.TagCloud
import Catalogue.Proofs.Record.Authors
import Catalogue.Proofs.Display.TagLine
