import HeaderCatalog.Text.Blank
import HeaderCatalog.Text.Find
import HeaderCatalog.Text.Quoted
import HeaderCatalog.Text.Uppercase
import HeaderCatalog.Decimal.Shortest
import HeaderCatalog.Json.Numeral
import HeaderCatalog.Json.Printer
import HeaderCatalog.Json.Tree
import HeaderCatalog.Json.Scan
import HeaderCatalog.Json.Schema
import HeaderCatalog.Version
import HeaderCatalog.Declaration.Header
import HeaderCatalog.Options
import HeaderCatalog.Snapshot.Document
import HeaderCatalog.Snapshot.Walk
import HeaderCatalog.TypeInfo.Document
import HeaderCatalog.TypeInfo.Resolve
import HeaderCatalog.Declaration.Document
import HeaderCatalog.Catalog.Extract
import HeaderCatalog.Snapshot.Load
import HeaderCatalog.Snapshot.Report
import HeaderCatalog.Main
import HeaderCatalog.Proofs.Result
import HeaderCatalog.Proofs.Policy
import HeaderCatalog.Proofs.Version
import HeaderCatalog.Proofs.Availability
import HeaderCatalog.Proofs.Graph.Colouring
import HeaderCatalog.Proofs.Graph.Height
import HeaderCatalog.Proofs.Json.Token
import HeaderCatalog.Proofs.Json.Document
import HeaderCatalog.Proofs.Json.Nesting
import HeaderCatalog.Proofs.Json.Reading
import HeaderCatalog.Proofs.Json.Record
import HeaderCatalog.Proofs.Json.Allowance
import HeaderCatalog.Proofs.Snapshot.Soundness
import HeaderCatalog.Proofs.Snapshot.Agreement
import HeaderCatalog.Proofs.Snapshot.Answers
import HeaderCatalog.Proofs.Snapshot.Walk
import HeaderCatalog.Proofs.Snapshot.RoundTrip
import HeaderCatalog.Proofs.TypeInfo.Resolve
import HeaderCatalog.Proofs.TypeInfo.RoundTrip
import HeaderCatalog.Proofs.Declaration.RoundTrip
import HeaderCatalog.Proofs.Catalog.Firsts
import HeaderCatalog.Proofs.Catalog.Renaming
import HeaderCatalog.Proofs.Catalog.Totality
import HeaderCatalog.Proofs.Catalog.Origin
import HeaderCatalog.Proofs.Catalog.Gating
import HeaderCatalog.Proofs.Catalog.Relaxing
import HeaderCatalog.Proofs.Catalog.Splitting
import HeaderCatalog.Proofs.Catalog.Depth
import HeaderCatalog.Proofs.Version.Order
import HeaderCatalog.Proofs.Version.Spelling
import HeaderCatalog.Proofs.Policy.Reasons
import HeaderCatalog.Proofs.Policy.Targets
import HeaderCatalog.Proofs.TypeInfo.Path
import HeaderCatalog.Proofs.TypeInfo.Level
import HeaderCatalog.Proofs.TypeInfo.Unfolding
import HeaderCatalog.Proofs.Catalog.Collecting
import HeaderCatalog.Proofs.Catalog.Presenting
import HeaderCatalog.Proofs.Graph.Growing
import HeaderCatalog.Proofs.Snapshot.Step
import HeaderCatalog.Proofs.Snapshot.Building
import HeaderCatalog.Proofs.Catalog.Messages
import HeaderCatalog.Proofs.Catalog.Accounting
import HeaderCatalog.Proofs.Files.Writing
import HeaderCatalog.Proofs.CommandLine.Words
import HeaderCatalog.Proofs.CommandLine.Meaning
import HeaderCatalog.Proofs.CommandLine.Reading
import HeaderCatalog.Proofs.CommandLine.Inputs
import HeaderCatalog.Proofs.CommandLine.Runs
import HeaderCatalog.Proofs.Policy.Platform
import HeaderCatalog.Proofs.Catalog.Merging
import HeaderCatalog.Proofs.First
import HeaderCatalog.Proofs.Snapshot.FirstDefect
import HeaderCatalog.Proofs.Snapshot.Worklist
import HeaderCatalog.Proofs.Snapshot.Tour
import HeaderCatalog.Proofs.Json.Continuation
import HeaderCatalog.Proofs.Json.Whole
import HeaderCatalog.Proofs.Snapshot.Continuation
import HeaderCatalog.Proofs.Json.Place
import HeaderCatalog.Proofs.Snapshot.Misfit
import HeaderCatalog.Proofs.Json.Edit
import HeaderCatalog.Proofs.Snapshot.Edit
import HeaderCatalog.Proofs.Declaration.Header
import HeaderCatalog.Proofs.Graph.Reached
