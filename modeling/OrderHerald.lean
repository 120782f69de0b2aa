import OrderHerald.Batch.Handle
import OrderHerald.Batch.Response
import OrderHerald.Cache.Basic
import OrderHerald.Cache.Crowd
import OrderHerald.Cache.Entry
import OrderHerald.Cache.Together
import OrderHerald.Clock
import OrderHerald.CommandLine
import OrderHerald.Delivery.Dispatch
import OrderHerald.Delivery.Report
import OrderHerald.Dict
import OrderHerald.Document.Basic
import OrderHerald.Document.Content
import OrderHerald.ExclusiveFiller
import OrderHerald.Http.Answer
import OrderHerald.Http.Message
import OrderHerald.Journal
import OrderHerald.Json.Basic
import OrderHerald.Json.Document
import OrderHerald.Json.Literal
import OrderHerald.Json.Numeral
import OrderHerald.Json.Reader
import OrderHerald.Json.Token
import OrderHerald.Json.Writer
import OrderHerald.Main
import OrderHerald.Metrics.Basic
import OrderHerald.Metrics.Catalog
import OrderHerald.Metrics.Totals
import OrderHerald.Notifier
import OrderHerald.Order.Basic
import OrderHerald.Order.Kind
import OrderHerald.Order.Stored
import OrderHerald.Proofs.Batch.Coverage
import OrderHerald.Proofs.Batch.Failures
import OrderHerald.Proofs.Batch.Independence
import OrderHerald.Proofs.Batch.Record
import OrderHerald.Proofs.Batch.Turns
import OrderHerald.Proofs.Cache.Age
import OrderHerald.Proofs.Cache.History
import OrderHerald.Proofs.Cache.Records
import OrderHerald.Proofs.Cache.SingleFlight
import OrderHerald.Proofs.Cache.Steps
import OrderHerald.Proofs.Delivery.Accounting
import OrderHerald.Proofs.Delivery.Dispatch
import OrderHerald.Proofs.Journal
import OrderHerald.Proofs.Routing.Addresses
import OrderHerald.Proofs.Routing.Exclusive
import OrderHerald.Proofs.Routing.Match
import OrderHerald.Proofs.Staleness.Observe
import OrderHerald.Provider
import OrderHerald.Routing.Definition
import OrderHerald.Routing.Format
import OrderHerald.Routing.Match
import OrderHerald.Run
import OrderHerald.Service.Admin
import OrderHerald.Service.Ingress
import OrderHerald.Service.Start
import OrderHerald.Settings.Basic
import OrderHerald.Settings.File
import OrderHerald.Settings.Reporting
import OrderHerald.Staleness.Node
import OrderHerald.Staleness.Observe
import OrderHerald.Staleness.Report
import OrderHerald.Store.Fetch
import OrderHerald.Store.Settings
import OrderHerald.Store.Source
import OrderHerald.Stream.Access
import OrderHerald.Stream.Attribute
import OrderHerald.Stream.Record
import OrderHerald.Surroundings
import OrderHerald.Text.Base64
import OrderHerald.Text.Decimal
import OrderHerald.Text.Shortest
import OrderHerald.Text.Split
import OrderHerald.Text.Utf8
import OrderHerald.Url.Basic
import OrderHerald.Url.Host
import OrderHerald.Url.Parse
import OrderHerald.Url.Percent
import OrderHerald.Url.Segments
import OrderHerald.Yaml.Document
import OrderHerald.Yaml.Node
import OrderHerald.Yaml.Place
import OrderHerald.Yaml.Scalar
import OrderHerald.Yaml.Token
import OrderHerald.Proofs.Store.Opening
import OrderHerald.Proofs.Json.Scan
import OrderHerald.Proofs.Json.RoundTrip
import OrderHerald.Proofs.Document.Record
import OrderHerald.Proofs.Order.Told
import OrderHerald.Proofs.Order.Agreement
import OrderHerald.Proofs.Dict
import OrderHerald.Proofs.Routing.Layout
import OrderHerald.Proofs.Routing.FirstMet
import OrderHerald.Proofs.Service.Statuses
import OrderHerald.Proofs.Cache.Refinement
import OrderHerald.Proofs.Cache.Readiness
import OrderHerald.Proofs.Cache.Solo
import OrderHerald.Proofs.Staleness.Overdue
import OrderHerald.Proofs.Text.Spelling
import OrderHerald.Proofs.Order.Demands
import OrderHerald.Proofs.Order.Held
import OrderHerald.Proofs.Cache.Sharing
import OrderHerald.Proofs.Cache.Refreshers
import OrderHerald.Proofs.Url.Percent
import OrderHerald.Proofs.Url.Segments
import OrderHerald.Proofs.Store.ObjectUrl
import OrderHerald.Proofs.Stream.Identifier
import OrderHerald.Proofs.Delivery.Letters
import OrderHerald.Proofs.Delivery.Apart
import OrderHerald.Proofs.Delivery.Filler
import OrderHerald.Proofs.Staleness.Measures
import OrderHerald.Proofs.Text.Hexadecimal
import OrderHerald.Proofs.Staleness.Node
import OrderHerald.Proofs.Json.Rearranged
import OrderHerald.Proofs.Order.Indifference
import OrderHerald.Proofs.Stream.Encoding
import OrderHerald.Proofs.Http.Asking
