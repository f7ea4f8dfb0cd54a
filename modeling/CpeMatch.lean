import CpeMatch.Boundary
import CpeMatch.Command.Request
import CpeMatch.Command.Run
import CpeMatch.Cpe
import CpeMatch.Entry
import CpeMatch.Fault
import CpeMatch.Files.Path
import CpeMatch.Files.Search
import CpeMatch.Files.Tree
import CpeMatch.Files.Wildcard
import CpeMatch.Grouping
import CpeMatch.IdOrder
import CpeMatch.Json.Basic
import CpeMatch.Json.Key
import CpeMatch.Json.Order
import CpeMatch.Json.Reader
import CpeMatch.Json.Shown
import CpeMatch.Json.Token
import CpeMatch.Json.Writer
import CpeMatch.Log.Record
import CpeMatch.Log.Registry
import CpeMatch.Log.Setup
import CpeMatch.Log.Threshold
import CpeMatch.Lookup
import CpeMatch.Main
import CpeMatch.Matching
import CpeMatch.Number.Basic
import CpeMatch.Number.Binary64
import CpeMatch.Number.Numeral
import CpeMatch.Number.Places
import CpeMatch.Number.Rounding
import CpeMatch.Number.Shortest
import CpeMatch.Report.Console
import CpeMatch.Report.Document
import CpeMatch.Report.Plain
import CpeMatch.Report.Printed
import CpeMatch.Store.Basic
import CpeMatch.Store.Complaint
import CpeMatch.Store.Decoding
import CpeMatch.Store.Loading
import CpeMatch.Store.Source
import CpeMatch.Text.Basic
import CpeMatch.Text.Blank
import CpeMatch.Text.CaseFold
import CpeMatch.Text.CodeRange
import CpeMatch.Text.DecimalDigit
import CpeMatch.Text.Letter
import CpeMatch.Text.Lower
import CpeMatch.Text.Markup
import CpeMatch.Text.Percent
import CpeMatch.Text.Printable
import CpeMatch.Text.Quoted
import CpeMatch.Text.Utf8
import CpeMatch.Timing.Activity
import CpeMatch.Timing.Duration
import CpeMatch.Timing.Monitor
import CpeMatch.Timing.Session
import CpeMatch.Version.Basic
import CpeMatch.Version.Ranking
import CpeMatch.Version.Token
import CpeMatch.Vulnerability
import CpeMatch.Proofs.Command.Check
import CpeMatch.Proofs.Command.Opening
import CpeMatch.Proofs.Command.Outputs
import CpeMatch.Proofs.Command.Printing
import CpeMatch.Proofs.Command.Reporting
import CpeMatch.Proofs.Command.SortInput
import CpeMatch.Proofs.Cpe.Escaping
import CpeMatch.Proofs.Cpe.LetterCase
import CpeMatch.Proofs.Cpe.Uri
import CpeMatch.Proofs.Files.NewFile
import CpeMatch.Proofs.Files.Place
import CpeMatch.Proofs.Files.Search
import CpeMatch.Proofs.Files.Writing
import CpeMatch.Proofs.Grouping.Exact
import CpeMatch.Proofs.Grouping.Reading
import CpeMatch.Proofs.Grouping.Runs
import CpeMatch.Proofs.Grouping.Sorting
import CpeMatch.Proofs.Grouping.Streaming
import CpeMatch.Proofs.Json.Keys
import CpeMatch.Proofs.Json.ReadBack
import CpeMatch.Proofs.Json.Scanning
import CpeMatch.Proofs.Log.Calls
import CpeMatch.Proofs.Lookup.Alone
import CpeMatch.Proofs.Lookup.BrokenStream
import CpeMatch.Proofs.Lookup.Complete
import CpeMatch.Proofs.Lookup.LetterCase
import CpeMatch.Proofs.Lookup.Many
import CpeMatch.Proofs.Lookup.Presorted
import CpeMatch.Proofs.Lookup.Rows
import CpeMatch.Proofs.Matching.Kinds
import CpeMatch.Proofs.Matching.Losing
import CpeMatch.Proofs.Matching.Plain
import CpeMatch.Proofs.Matching.Reach
import CpeMatch.Proofs.Number.Range
import CpeMatch.Proofs.Number.Written
import CpeMatch.Proofs.Report.Listing
import CpeMatch.Proofs.Report.Markup
import CpeMatch.Proofs.Report.Printable
import CpeMatch.Proofs.Report.Showing
import CpeMatch.Proofs.StableSort
import CpeMatch.Proofs.Store.Answers
import CpeMatch.Proofs.Store.Contents
import CpeMatch.Proofs.Store.Decoding
import CpeMatch.Proofs.Store.History
import CpeMatch.Proofs.Store.Loading
import CpeMatch.Proofs.Store.Products
import CpeMatch.Proofs.Store.Reachable
import CpeMatch.Proofs.Store.Reloading
import CpeMatch.Proofs.Store.Taking
import CpeMatch.Proofs.Store.Unreadable
import CpeMatch.Proofs.Text.Decimal
import CpeMatch.Proofs.Text.Encodable
import CpeMatch.Proofs.Text.LetterCase
import CpeMatch.Proofs.Text.LowerCase
import CpeMatch.Proofs.Text.Octets
import CpeMatch.Proofs.Text.Order
import CpeMatch.Proofs.Text.PercentEncoding
import CpeMatch.Proofs.Timing.Agreement
import CpeMatch.Proofs.Timing.Nesting
import CpeMatch.Proofs.Timing.Task
import CpeMatch.Proofs.Timing.Totals
import CpeMatch.Proofs.Version.Grammar
import CpeMatch.Proofs.Version.Lexicographic
import CpeMatch.Proofs.Version.NormalForm
import CpeMatch.Proofs.Version.Order
import CpeMatch.Proofs.Version.Ranking
import CpeMatch.Proofs.Version.Runs
import CpeMatch.Proofs.Version.Update
