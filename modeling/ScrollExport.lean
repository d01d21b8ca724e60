import ScrollExport.Calendar.Date
import ScrollExport.Calendar.Instant
import ScrollExport.CommandLine.Help
import ScrollExport.CommandLine.Options
import ScrollExport.CommandLine.Reader
import ScrollExport.Config.Decode
import ScrollExport.Config.Format
import ScrollExport.Config.Layers
import ScrollExport.Config.Override
import ScrollExport.Config.Path
import ScrollExport.Config.Value
import ScrollExport.DecodeError
import ScrollExport.Export
import ScrollExport.FileTree
import ScrollExport.Json.Basic
import ScrollExport.Json.Numeral
import ScrollExport.Json.Printer
import ScrollExport.Json.Reader
import ScrollExport.Json.Token
import ScrollExport.Json.Tree
import ScrollExport.Keyed
import ScrollExport.Main
import ScrollExport.Number.Binary64
import ScrollExport.Number.Digits
import ScrollExport.Number.Notation
import ScrollExport.Number.Shortest
import ScrollExport.Output.Delimited
import ScrollExport.Output.Format
import ScrollExport.Output.Listing
import ScrollExport.Output.Markup
import ScrollExport.Program
import ScrollExport.Proofs.Config.KeyText
import ScrollExport.Proofs.Config.Layering
import ScrollExport.Proofs.Config.Overrides
import ScrollExport.Proofs.Config.RunMode
import ScrollExport.Proofs.Config.Typing
import ScrollExport.Proofs.Json.Nesting
import ScrollExport.Proofs.Json.Numeral
import ScrollExport.Proofs.Json.Rendering
import ScrollExport.Proofs.Json.Token
import ScrollExport.Proofs.Number.Decimal
import ScrollExport.Proofs.Output.Delimited
import ScrollExport.Proofs.Output.Delimiter
import ScrollExport.Proofs.Output.Effects
import ScrollExport.Proofs.Output.Failure
import ScrollExport.Proofs.Output.Identity
import ScrollExport.Proofs.Output.Listing
import ScrollExport.Proofs.Output.Markup
import ScrollExport.Proofs.Output.Reported
import ScrollExport.Proofs.Output.Writing
import ScrollExport.Proofs.Query.Order
import ScrollExport.Proofs.Query.Strictness
import ScrollExport.Proofs.Query.Validation
import ScrollExport.Proofs.Scroll.Accounts
import ScrollExport.Proofs.Scroll.Calls
import ScrollExport.Proofs.Scroll.Derivation
import ScrollExport.Proofs.Scroll.Interleaving
import ScrollExport.Proofs.Scroll.Interruption
import ScrollExport.Proofs.Scroll.Paging
import ScrollExport.Proofs.Scroll.Scripted
import ScrollExport.Proofs.Search.Admission
import ScrollExport.Proofs.Search.Authorization
import ScrollExport.Proofs.Search.Decoding
import ScrollExport.Proofs.Search.Refinement
import ScrollExport.Proofs.Search.Release
import ScrollExport.Proofs.Search.Requests
import ScrollExport.Proofs.Search.Targets
import ScrollExport.Proofs.Settings.IndexNames
import ScrollExport.Proofs.Settings.Printing
import ScrollExport.Proofs.Settings.TextSetting
import ScrollExport.Proofs.Settings.Variables
import ScrollExport.Proofs.Table.Indexed
import ScrollExport.Proofs.Text.Base64
import ScrollExport.Proofs.Text.Pieces
import ScrollExport.Proofs.Text.Span
import ScrollExport.Proofs.Url.Credentials
import ScrollExport.Proofs.Url.Disclosure
import ScrollExport.Proofs.Url.Percent
import ScrollExport.Proofs.Url.Segments
import ScrollExport.Proofs.Url.UserInfo
import ScrollExport.Query
import ScrollExport.Record
import ScrollExport.Report
import ScrollExport.Run
import ScrollExport.Scroll.Drain
import ScrollExport.Scroll.Memory
import ScrollExport.Scroll.Script
import ScrollExport.Scroll.Service
import ScrollExport.Search.Body
import ScrollExport.Search.Endpoint
import ScrollExport.Search.Exchange
import ScrollExport.Search.Response
import ScrollExport.Search.Session
import ScrollExport.Settings
import ScrollExport.Table
import ScrollExport.Text.Base64
import ScrollExport.Text.Blank
import ScrollExport.Text.Bytes
import ScrollExport.Text.Case
import ScrollExport.Text.CaseTable
import ScrollExport.Text.Quoted
import ScrollExport.Text.Similarity
import ScrollExport.Text.Split
import ScrollExport.Text.Unprintable
import ScrollExport.Toml.Datetime
import ScrollExport.Toml.Document
import ScrollExport.Toml.Numeral
import ScrollExport.Toml.Token
import ScrollExport.Toml.Value
import ScrollExport.Url.Basic
import ScrollExport.Url.Host
import ScrollExport.Url.Percent
import ScrollExport.Url.Punycode
import ScrollExport.Url.Reader
