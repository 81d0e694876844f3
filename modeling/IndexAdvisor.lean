import IndexAdvisor.Command.Serve
import IndexAdvisor.Database.Connection
import IndexAdvisor.Json.Tagged
import IndexAdvisor.Main
import IndexAdvisor.Metrics.Publisher
import IndexAdvisor.Service
import IndexAdvisor.Text.Line
import IndexAdvisor.Proofs.Batch.Advised
import IndexAdvisor.Proofs.Batch.Executed
import IndexAdvisor.Proofs.Binding.Assigned
import IndexAdvisor.Proofs.Binding.Failed
import IndexAdvisor.Proofs.Binding.Frame
import IndexAdvisor.Proofs.Catalog.Once
import IndexAdvisor.Proofs.Database.Undone
import IndexAdvisor.Proofs.Binding.Rewritten
import IndexAdvisor.Proofs.Advice.Order
import IndexAdvisor.Proofs.Batch.Concluded
import IndexAdvisor.Proofs.Sql.Segments
import IndexAdvisor.Proofs.Batch.Closing
import IndexAdvisor.Proofs.Batch.Named
import IndexAdvisor.Proofs.Command.Password
import IndexAdvisor.Proofs.Binding.Unbound
import IndexAdvisor.Proofs.Binding.Parameters
import IndexAdvisor.Proofs.Catalog.Normal
import IndexAdvisor.Proofs.Command.Environment
import IndexAdvisor.Proofs.Service.Keys
import IndexAdvisor.Proofs.Sql.Numbered
import IndexAdvisor.Proofs.Sql.Nested
import IndexAdvisor.Proofs.Sql.Between
import IndexAdvisor.Proofs.Sql.ReadBack
import IndexAdvisor.Proofs.Advice.Ranking
import IndexAdvisor.Proofs.Usage.Conditions
import IndexAdvisor.Proofs.Sql.Arrays
import IndexAdvisor.Proofs.Sql.NumberLiterals
import IndexAdvisor.Proofs.Advice.Followed
import IndexAdvisor.Proofs.Batch.Risks
import IndexAdvisor.Proofs.Usage.Readings
import IndexAdvisor.Proofs.Metrics.Batches
import IndexAdvisor.Proofs.Plan.Timings
import IndexAdvisor.Proofs.Replay.Decoded
import IndexAdvisor.Proofs.Usage.Visited
