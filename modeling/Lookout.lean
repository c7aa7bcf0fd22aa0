import Lookout.Filters.Json
import Lookout.Main
import Lookout.Query.ModeJson
import Lookout.TestDatabase
import Lookout.Proofs.Query.IndexQuery
import Lookout.Proofs.Query.Items
import Lookout.Proofs.Query.Meaning
import Lookout.Proofs.Search.Tail
import Lookout.Proofs.Like
import Lookout.Proofs.Sql.Formula
import Lookout.Proofs.Sql.Clause
import Lookout.Proofs.Search.Selection
import Lookout.Proofs.Sql.Select
import Lookout.Proofs.Search.Reading
import Lookout.Proofs.Dialogue.Consult
import Lookout.Proofs.Dialogue.Steps
import Lookout.Proofs.Service.Search
import Lookout.Proofs.Search.Database
import Lookout.Proofs.Search.Listing
import Lookout.Proofs.Service.Pages
import Lookout.Proofs.Search.Shape
import Lookout.Proofs.Dialogue.Progress
import Lookout.Proofs.Service.Outcome
import Lookout.Proofs.IdList
import Lookout.Proofs.Sql.Update
import Lookout.Proofs.Storage.Table
import Lookout.Proofs.Service.Backfill
import Lookout.Proofs.Time.Rfc3339
import Lookout.Proofs.Json.RoundTrip
import Lookout.Proofs.IdArray
import Lookout.Proofs.Storage.Store
import Lookout.Proofs.Query.Pieces
import Lookout.Proofs.Query.Places
import Lookout.Proofs.Query.Joined
import Lookout.Proofs.Query.Conjunction
import Lookout.Proofs.Search.Mode
import Lookout.Proofs.Service.Decoding
import Lookout.Proofs.Time.Ends
import Lookout.Proofs.Cli.Given
import Lookout.Proofs.Service.Dates
import Lookout.Proofs.Search.Patterns
import Lookout.Proofs.Service.Limits
import Lookout.Proofs.Search.Minus
import Lookout.Proofs.Service.Ranking
import Lookout.Proofs.Filters.Sources
import Lookout.Proofs.Service.Batches
import Lookout.Proofs.Settings
import Lookout.Proofs.TestDatabase
import Lookout.Proofs.Storage.SetUp
