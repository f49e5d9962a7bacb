import RowQuery.Session
import RowQuery.Proofs.Filter.Conjunction
import RowQuery.Proofs.Schema.Resolution
import RowQuery.Proofs.Schema.Route
import RowQuery.Proofs.Schema.Typing
import RowQuery.Proofs.Schema.Column
import RowQuery.Proofs.Schema.Direct
import RowQuery.Proofs.Schema.Spelling
import RowQuery.Proofs.Sql.Erasure
import RowQuery.Proofs.Sql.Like
import RowQuery.Proofs.Sql.Truth
import RowQuery.Proofs.Text.Bytes
import RowQuery.Proofs.Value.Written
import RowQuery.Proofs.Filter.Agreement
import RowQuery.Proofs.Filter.Enumeration
import RowQuery.Proofs.Filter.Expression
import RowQuery.Proofs.Filter.Outline
import RowQuery.Proofs.Sorting.Order
import RowQuery.Proofs.Sorting.Stable
import RowQuery.Proofs.Sql.Selection
import RowQuery.Proofs.Request.Agreement
import RowQuery.Proofs.Request.Statement
import RowQuery.Proofs.Request.Paging
import RowQuery.Proofs.Sorting.Sorter
import RowQuery.Proofs.Session.Isolation
import RowQuery.Proofs.Value.Restored
import RowQuery.Proofs.Json.Front
import RowQuery.Proofs.Json.Written
import RowQuery.Proofs.Json.Documents
import RowQuery.Proofs.Request.Bundle
import RowQuery.Proofs.Filter.Composite
import RowQuery.Proofs.Filter.Folding
import RowQuery.Proofs.Filter.Regard
import RowQuery.Proofs.Filter.Comparing
import RowQuery.Proofs.Filter.Complement
import RowQuery.Proofs.Filter.Trichotomy
import RowQuery.Proofs.Filter.Membership
import RowQuery.Proofs.Filter.Milliseconds
import RowQuery.Proofs.Number.Integer
import RowQuery.Proofs.Calendar.Duration
import RowQuery.Proofs.Filter.Normalisation
import RowQuery.Proofs.Filter.Interchange
import RowQuery.Proofs.Number.Width
import RowQuery.Proofs.Settings
import RowQuery.Proofs.Calendar.Readings
import RowQuery.Proofs.Request.Stages
import RowQuery.Proofs.Schema.Building
import RowQuery.Proofs.Text.Points
import RowQuery.Proofs.Filter.Override
import RowQuery.Proofs.Request.Window
import RowQuery.Proofs.Sql.Placement
import RowQuery.Proofs.Json.Respelled
