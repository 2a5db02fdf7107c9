import TrackerTraffic.Adapter.Basic
import TrackerTraffic.Adapter.Context
import TrackerTraffic.Adapter.Document
import TrackerTraffic.Adapter.Predicate
import TrackerTraffic.Adapter.PredicateDocument
import TrackerTraffic.Adapter.Property
import TrackerTraffic.Adapter.TextMatcher
import TrackerTraffic.Bytes.Base64
import TrackerTraffic.Bytes.Basic
import TrackerTraffic.Bytes.Binary
import TrackerTraffic.Bytes.Gzip
import TrackerTraffic.Bytes.Inflate
import TrackerTraffic.Bytes.Percent
import TrackerTraffic.Capture.Basic
import TrackerTraffic.Capture.Document
import TrackerTraffic.Catalog.Basic
import TrackerTraffic.Catalog.InPlace
import TrackerTraffic.Catalog.Shared
import TrackerTraffic.Decoding.Error
import TrackerTraffic.Decoding.Run
import TrackerTraffic.Detection.Extraction
import TrackerTraffic.Detection.Indicator
import TrackerTraffic.Detection.Match
import TrackerTraffic.Detection.Processing
import TrackerTraffic.Instant.Basic
import TrackerTraffic.Instant.Printer
import TrackerTraffic.Instant.Reader
import TrackerTraffic.Json.Basic
import TrackerTraffic.Json.Coercion
import TrackerTraffic.Json.Draft
import TrackerTraffic.Json.Numeral
import TrackerTraffic.Json.Printer
import TrackerTraffic.Json.Token
import TrackerTraffic.Log.Record
import TrackerTraffic.Log.Trace
import TrackerTraffic.Number.Binary64
import TrackerTraffic.Number.Literal
import TrackerTraffic.Number.Power
import TrackerTraffic.Number.Shortest
import TrackerTraffic.Path.Condition
import TrackerTraffic.Path.Error
import TrackerTraffic.Path.Parser
import TrackerTraffic.Path.Query
import TrackerTraffic.Path.Scanner
import TrackerTraffic.Path.Syntax
import TrackerTraffic.Path.Target
import TrackerTraffic.Pattern.Basic
import TrackerTraffic.Pattern.CharSet
import TrackerTraffic.Pattern.ClassText
import TrackerTraffic.Pattern.Escape
import TrackerTraffic.Pattern.Literal
import TrackerTraffic.Pattern.Parser
import TrackerTraffic.Pattern.SetName
import TrackerTraffic.Proofs.ArrayGrowth
import TrackerTraffic.Proofs.Base64RoundTrip
import TrackerTraffic.Proofs.Batches
import TrackerTraffic.Proofs.BinaryBodies
import TrackerTraffic.Proofs.BlockedPairs
import TrackerTraffic.Proofs.Candidates
import TrackerTraffic.Proofs.CapturedRequests
import TrackerTraffic.Proofs.CatalogDocument
import TrackerTraffic.Proofs.CatalogInvariant
import TrackerTraffic.Proofs.CatalogJoin
import TrackerTraffic.Proofs.CatalogTrackers
import TrackerTraffic.Proofs.CatalogWork
import TrackerTraffic.Proofs.Decimal
import TrackerTraffic.Proofs.DottedPath
import TrackerTraffic.Proofs.FilterAlgebra
import TrackerTraffic.Proofs.FlatQueries
import TrackerTraffic.Proofs.FormRoundTrip
import TrackerTraffic.Proofs.Grouping
import TrackerTraffic.Proofs.Handling
import TrackerTraffic.Proofs.IndexedItems
import TrackerTraffic.Proofs.ItemSteps
import TrackerTraffic.Proofs.JsonMembers
import TrackerTraffic.Proofs.KeySegments
import TrackerTraffic.Proofs.KnownValues
import TrackerTraffic.Proofs.LiteralPatterns
import TrackerTraffic.Proofs.Locations
import TrackerTraffic.Proofs.Lookahead
import TrackerTraffic.Proofs.MemberOrder
import TrackerTraffic.Proofs.Occurrences
import TrackerTraffic.Proofs.PathJoin
import TrackerTraffic.Proofs.PathOperand
import TrackerTraffic.Proofs.PathPrinter
import TrackerTraffic.Proofs.PathReader
import TrackerTraffic.Proofs.PathRoundTrip
import TrackerTraffic.Proofs.PlacesApart
import TrackerTraffic.Proofs.PlainPatterns
import TrackerTraffic.Proofs.QueryChange
import TrackerTraffic.Proofs.QueryKeys
import TrackerTraffic.Proofs.QueryLocations
import TrackerTraffic.Proofs.QueryLosses
import TrackerTraffic.Proofs.QueryPlace
import TrackerTraffic.Proofs.QueryRoundTrip
import TrackerTraffic.Proofs.QueryTexts
import TrackerTraffic.Proofs.QueryTree
import TrackerTraffic.Proofs.ReaderRules
import TrackerTraffic.Proofs.RenderedFields
import TrackerTraffic.Proofs.RunFailures
import TrackerTraffic.Proofs.RunStates
import TrackerTraffic.Proofs.ScanConditions
import TrackerTraffic.Proofs.ScanOperands
import TrackerTraffic.Proofs.ScanPath
import TrackerTraffic.Proofs.ScanSteps
import TrackerTraffic.Proofs.ScanWords
import TrackerTraffic.Proofs.Selection
import TrackerTraffic.Proofs.SharedCatalog
import TrackerTraffic.Proofs.SplitJoin
import TrackerTraffic.Proofs.StepOrder
import TrackerTraffic.Proofs.TargetAgreement
import TrackerTraffic.Proofs.TargetConflict
import TrackerTraffic.Proofs.TargetFrame
import TrackerTraffic.Proofs.TargetPlace
import TrackerTraffic.Proofs.TargetReadBack
import TrackerTraffic.Proofs.TargetText
import TrackerTraffic.Proofs.TargetWalk
import TrackerTraffic.Proofs.TextOrder
import TrackerTraffic.Proofs.TextRepair
import TrackerTraffic.Proofs.Traversal
import TrackerTraffic.Proofs.TypedFields
import TrackerTraffic.Proofs.UrlBare
import TrackerTraffic.Proofs.UrlBytes
import TrackerTraffic.Proofs.UrlSigns
import TrackerTraffic.Proofs.Utf8
import TrackerTraffic.Proofs.Varint
import TrackerTraffic.Proofs.VarintWords
import TrackerTraffic.Proofs.WireBounds
import TrackerTraffic.Proofs.WireConcat
import TrackerTraffic.Proofs.WireErrors
import TrackerTraffic.Proofs.WireRecord
import TrackerTraffic.Proofs.WireRoundTrip
import TrackerTraffic.Proofs.WireSlices
import TrackerTraffic.Proofs.WrittenLocations
import TrackerTraffic.QueryString.Form
import TrackerTraffic.QueryString.Key
import TrackerTraffic.QueryString.Tree
import TrackerTraffic.Request.Basic
import TrackerTraffic.Request.Document
import TrackerTraffic.Shape.Error
import TrackerTraffic.Shape.Reader
import TrackerTraffic.Shape.Record
import TrackerTraffic.Step.Basic
import TrackerTraffic.Step.Document
import TrackerTraffic.Step.Error
import TrackerTraffic.Step.Function
import TrackerTraffic.Text.AsciiCase
import TrackerTraffic.Text.BinaryProperty
import TrackerTraffic.Text.Blank
import TrackerTraffic.Text.CaseFold
import TrackerTraffic.Text.CaseMap
import TrackerTraffic.Text.Category
import TrackerTraffic.Text.CodeTable
import TrackerTraffic.Text.Hex
import TrackerTraffic.Text.Integer
import TrackerTraffic.Text.Letter
import TrackerTraffic.Text.Normal
import TrackerTraffic.Text.Quoted
import TrackerTraffic.Text.Script
import TrackerTraffic.Text.Search
import TrackerTraffic.Text.Utf16
import TrackerTraffic.Text.Utf8
import TrackerTraffic.Text.Word
import TrackerTraffic.Url.Basic
import TrackerTraffic.Url.Direction
import TrackerTraffic.Url.Domain
import TrackerTraffic.Url.Error
import TrackerTraffic.Url.Host
import TrackerTraffic.Url.HostCharacter
import TrackerTraffic.Url.Ipv4
import TrackerTraffic.Url.Ipv6
import TrackerTraffic.Url.Path
import TrackerTraffic.Url.Punycode
import TrackerTraffic.Wire.Buffer
import TrackerTraffic.Wire.Cursor
import TrackerTraffic.Wire.Message
import TrackerTraffic.Wire.Render
import TrackerTraffic.Wire.Varint
