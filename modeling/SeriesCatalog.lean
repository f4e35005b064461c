import SeriesCatalog.Catalog.Codec
import SeriesCatalog.Main
import SeriesCatalog.Settings.Document
import SeriesCatalog.Json.Numeral
import SeriesCatalog.Domain.Spelling
import SeriesCatalog.Text.Joining
import SeriesCatalog.Domain.Punycode
import SeriesCatalog.Address.Numeric
import SeriesCatalog.Domain
import SeriesCatalog.Address
import SeriesCatalog.File.Tree
import SeriesCatalog.Proofs.NameMap
import SeriesCatalog.Proofs.Outcome
import SeriesCatalog.Proofs.RowType
import SeriesCatalog.Proofs.Discovery
import SeriesCatalog.Proofs.Calls
import SeriesCatalog.Proofs.Seeds
import SeriesCatalog.Proofs.Resolution
import SeriesCatalog.Proofs.Documents
import SeriesCatalog.Proofs.Validation
import SeriesCatalog.Proofs.Dates
import SeriesCatalog.Proofs.Digits
import SeriesCatalog.Proofs.Trimming
import SeriesCatalog.Proofs.TypeExpression
import SeriesCatalog.Proofs.EngineArguments
import SeriesCatalog.Proofs.IntervalText
import SeriesCatalog.Proofs.Source
import SeriesCatalog.Proofs.Building
import SeriesCatalog.Proofs.Registration
import SeriesCatalog.Proofs.NewTables
import SeriesCatalog.Proofs.History
import SeriesCatalog.Proofs.External
import SeriesCatalog.Proofs.CatalogCodec
import SeriesCatalog.Proofs.EndpointGrammar
import SeriesCatalog.Proofs.EndpointReading
import SeriesCatalog.Proofs.LeapSeconds
import SeriesCatalog.Proofs.IntervalGrammar
import SeriesCatalog.Proofs.PlanText
import SeriesCatalog.Proofs.BoundsQuery
import SeriesCatalog.Proofs.Listing
import SeriesCatalog.Proofs.Describing
import SeriesCatalog.Proofs.IntervalContents
import SeriesCatalog.Proofs.QuotedColumns
import SeriesCatalog.Proofs.TextIdentity
import SeriesCatalog.Proofs.Merging
import SeriesCatalog.Proofs.Completion
import SeriesCatalog.Proofs.Environment
import SeriesCatalog.Proofs.RowResolution
import SeriesCatalog.Proofs.RowTypeCodec
import SeriesCatalog.Proofs.ClusterNumbers
import SeriesCatalog.Proofs.ArgumentLists
import SeriesCatalog.Proofs.RowAssembly
import SeriesCatalog.Proofs.QuotedNames
