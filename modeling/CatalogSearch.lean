import CatalogSearch.Json.Parser
import CatalogSearch.Json.Printer
import CatalogSearch.Query.Intent
import CatalogSearch.Query.Search
import CatalogSearch.Query.Clauses
import CatalogSearch.Query.IntentForm
import CatalogSearch.Catalog.Identity
import CatalogSearch.Catalog.Origin
import CatalogSearch.Engine.Address
import CatalogSearch.Engine.Summary
import CatalogSearch.Engine.Store
import CatalogSearch.Engine.Target
import CatalogSearch.Engine.BulkEntry
import CatalogSearch.Engine.BulkAnswer
import CatalogSearch.Reading.Reader
import CatalogSearch.Reading.Paging
import CatalogSearch.Reading.SearchAnswer
import CatalogSearch.Batcher.History
import CatalogSearch.Batcher.Indexer
import CatalogSearch.Net.Http
import CatalogSearch.Wire.Client
import CatalogSearch.Wire.EmptyType
import CatalogSearch.Service.Logging
import CatalogSearch.Service.Startup
import CatalogSearch.Simulation.ScriptedEngine
import CatalogSearch.Simulation.WireEngine
import CatalogSearch.Simulation.World
import CatalogSearch.Proofs.Text.Separated
import CatalogSearch.Proofs.Query.Phrases
import CatalogSearch.Proofs.Query.Classified
import CatalogSearch.Proofs.Query.Legible
import CatalogSearch.Proofs.Query.Boosts
import CatalogSearch.Proofs.Query.IntentClauses
import CatalogSearch.Proofs.Query.IntentForm
import CatalogSearch.Proofs.Catalog.Identity
import CatalogSearch.Proofs.Engine.Documents
import CatalogSearch.Proofs.Engine.Replay
import CatalogSearch.Proofs.Engine.Summary
import CatalogSearch.Proofs.Reading.Checks
import CatalogSearch.Proofs.Reading.Lookup
import CatalogSearch.Proofs.Reading.Paging
import CatalogSearch.Proofs.Reading.EmptyCursor
import CatalogSearch.Proofs.Reading.Answers
import CatalogSearch.Proofs.Batcher.Age
import CatalogSearch.Proofs.Batcher.Attempts
import CatalogSearch.Proofs.Batcher.Batching
import CatalogSearch.Proofs.Batcher.Capacity
import CatalogSearch.Proofs.Batcher.Dialogue
import CatalogSearch.Proofs.Batcher.DirectCalls
import CatalogSearch.Proofs.Batcher.Drainage
import CatalogSearch.Proofs.Batcher.Recovery
import CatalogSearch.Proofs.Batcher.Validity
import CatalogSearch.Proofs.Wire.WritePath
import CatalogSearch.Proofs.Wire.BulkLines
import CatalogSearch.Proofs.Wire.Outcomes
import CatalogSearch.Proofs.Wire.EmptyType
import CatalogSearch.Proofs.Reading.ReadBack
import CatalogSearch.Proofs.Batcher.Worker
import CatalogSearch.Proofs.Text.Trim
import CatalogSearch.Proofs.Catalog.Route
import CatalogSearch.Proofs.Service.Settings
import CatalogSearch.Engine.Turns
import CatalogSearch.Proofs.Engine.Turns
import CatalogSearch.Proofs.Catalog.RouteText
import CatalogSearch.Proofs.Service.Variables
import CatalogSearch.Proofs.Query.Options
