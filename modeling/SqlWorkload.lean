import SqlWorkload.Json.Printer
import SqlWorkload.Main
import SqlWorkload.Registry
import SqlWorkload.Stored.Query
import SqlWorkload.Stored.Request
import SqlWorkload.Proofs.JoinGraph.Incidence
import SqlWorkload.Proofs.Random.Results
import SqlWorkload.Proofs.Random.Attempts
import SqlWorkload.Proofs.Generation.Walk
import SqlWorkload.Proofs.Generation.Queries
import SqlWorkload.Proofs.Generation.JoinTree
import SqlWorkload.Proofs.Generation.Unguarded
import SqlWorkload.Proofs.Text.Delimited
import SqlWorkload.Proofs.Query.Literals
import SqlWorkload.Proofs.Query.HintComment
import SqlWorkload.Proofs.Query.Readback
import SqlWorkload.Proofs.Analysis.Tables
import SqlWorkload.Proofs.Analysis.Provenance
import SqlWorkload.Proofs.Analysis.Calls
import SqlWorkload.Proofs.Request.Calls
import SqlWorkload.Proofs.Request.Endings
import SqlWorkload.Proofs.Request.Trace
import SqlWorkload.Proofs.Request.History
import SqlWorkload.Proofs.Registry.Publications
import SqlWorkload.Proofs.Random.Coupling
import SqlWorkload.Proofs.Analysis.Description
import SqlWorkload.Proofs.Generation.Resemblance
import SqlWorkload.Proofs.Generation.Outline
import SqlWorkload.Proofs.Analysis.Order
import SqlWorkload.Proofs.Text.CsvReader
import SqlWorkload.Proofs.Files.Written
import SqlWorkload.Proofs.Calendar.Instants
import SqlWorkload.Proofs.Request.Identifiers
import SqlWorkload.Proofs.Stored.Records
import SqlWorkload.Proofs.Stored.Parameters
import SqlWorkload.Proofs.Stored.Requests
import SqlWorkload.Proofs.Generation.Limits
import SqlWorkload.Proofs.Files.Lines
import SqlWorkload.Proofs.Setup.SourceKeys
import SqlWorkload.Proofs.Text.Bytes
import SqlWorkload.Proofs.Setup.Redaction
import SqlWorkload.Proofs.Random.Chances
import SqlWorkload.Proofs.Random.Samples
import SqlWorkload.Proofs.Generation.Columns
import SqlWorkload.Proofs.Generation.Predicates
import SqlWorkload.Proofs.Generation.Projection
import SqlWorkload.Proofs.Generation.Hints
import SqlWorkload.Proofs.JoinGraph.Edges
import SqlWorkload.Proofs.Query.Quotes
import SqlWorkload.Proofs.Query.HintPlaces
import SqlWorkload.Proofs.JoinGraph.Components
import SqlWorkload.Proofs.Number.Values
import SqlWorkload.Proofs.Parameters.Checks
import SqlWorkload.Proofs.Analysis.Rows
import SqlWorkload.Proofs.Catalog.Indexes
import SqlWorkload.Proofs.Request.Execution
import SqlWorkload.Proofs.Catalog.TypeNames
import SqlWorkload.Proofs.Generation.Frontier
import SqlWorkload.Proofs.Calendar.Days
import SqlWorkload.Proofs.Generation.Literals
import SqlWorkload.Proofs.Text.QuoteReader
import SqlWorkload.Proofs.Query.Names
