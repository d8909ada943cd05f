import SqlBuilder.Database.Replay
import SqlBuilder.Json.Reader
import SqlBuilder.Placeholder
import SqlBuilder.Query.Step
import SqlBuilder.Query.Terminal
import SqlBuilder.Schema.Migration
import SqlBuilder.Value.Conversion
import SqlBuilder.Value.Tagged
import SqlBuilder.Proofs.Parameters
import SqlBuilder.Proofs.Lookup
import SqlBuilder.Proofs.Blanking
import SqlBuilder.Proofs.Numbering
import SqlBuilder.Proofs.SchemaNumbering
import SqlBuilder.Proofs.TableNames
import SqlBuilder.Proofs.SelectColumns
import SqlBuilder.Proofs.Readability
import SqlBuilder.Proofs.Qualifiers
import SqlBuilder.Proofs.Windows
import SqlBuilder.Proofs.Pages
import SqlBuilder.Proofs.Migrations
import SqlBuilder.Proofs.Reuse
import SqlBuilder.Proofs.Fields
import SqlBuilder.Proofs.Inserts
import SqlBuilder.Proofs.Totals
import SqlBuilder.Proofs.Rejections
import SqlBuilder.Proofs.Reordering
import SqlBuilder.Proofs.Implications
import SqlBuilder.Proofs.Keys
import SqlBuilder.Proofs.Idempotence
import SqlBuilder.Proofs.Alignment
import SqlBuilder.Proofs.Failures
import SqlBuilder.Proofs.Finders
import SqlBuilder.Proofs.Untouched
import SqlBuilder.Proofs.Columns
import SqlBuilder.Proofs.Constraints
import SqlBuilder.Proofs.GeneratedKeys
import SqlBuilder.Proofs.DistinctOrder
import SqlBuilder.Proofs.Aggregates
import SqlBuilder.Proofs.ColumnLiterals
import SqlBuilder.Proofs.LiteralLists
import SqlBuilder.Proofs.QuestionMarks
