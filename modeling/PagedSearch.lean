import PagedSearch.Text.Blank
import PagedSearch.Text.Letters
import PagedSearch.Text.Digits
import PagedSearch.Number.Binary64
import PagedSearch.Number.Rounding
import PagedSearch.Number.Literal
import PagedSearch.Number.Shortest
import PagedSearch.Number.Layout
import PagedSearch.Calendar.Date
import PagedSearch.Calendar.Instant
import PagedSearch.Calendar.Layout
import PagedSearch.Calendar.Literal
import PagedSearch.Calendar.Stamp
import PagedSearch.Json.Basic
import PagedSearch.Json.Number
import PagedSearch.Json.Printer
import PagedSearch.Json.Node
import PagedSearch.Json.Reader
import PagedSearch.Json.Record
import PagedSearch.Operator
import PagedSearch.FieldType
import PagedSearch.Catalog
import PagedSearch.Value
import PagedSearch.Value.Stored
import PagedSearch.Request.Basic
import PagedSearch.Request.Repair
import PagedSearch.Window
import PagedSearch.Summary
import PagedSearch.Rejection
import PagedSearch.Filter.Check
import PagedSearch.Filter.Builder
import PagedSearch.Filter.Sentence
import PagedSearch.Criteria.Basic
import PagedSearch.Criteria.Selection
import PagedSearch.Sql.Dialect
import PagedSearch.Sql.Statement
import PagedSearch.Sql.Pattern
import PagedSearch.Sql.Conjunction
import PagedSearch.Sql.Query
import PagedSearch.Settings
import PagedSearch.Plan
import PagedSearch.Deployment
import PagedSearch.Collection.Order
import PagedSearch.Collection.Sorting
import PagedSearch.Collection.Page
import PagedSearch.Database
import PagedSearch.Wire.Request
import PagedSearch.Wire.Value
import PagedSearch.Wire.Criteria
import PagedSearch.Wire.Settings
import PagedSearch.ApiSchema
import PagedSearch.Proofs.Filter.Compilation
import PagedSearch.Proofs.Sql.Engine
import PagedSearch.Proofs.Sql.Agreement
import PagedSearch.Proofs.Request.Planning
import PagedSearch.Proofs.Sql.BoundValues
import PagedSearch.Proofs.Collection.Paging
import PagedSearch.Proofs.Collection.Sorting
import PagedSearch.Proofs.Collection.DocumentOrder
import PagedSearch.Proofs.Filter.Fold
import PagedSearch.Proofs.Request.Acceptance
import PagedSearch.Proofs.Request.Conversion
import PagedSearch.Proofs.Calendar.JsonText
import PagedSearch.Proofs.Json.Numerals
import PagedSearch.Proofs.Json.Strings
import PagedSearch.Proofs.Json.WholeNumbers
import PagedSearch.Proofs.Criteria.Wire
import PagedSearch.Proofs.Json.Records
import PagedSearch.Proofs.Request.Wire
import PagedSearch.Proofs.Request.Replay
import PagedSearch.Proofs.Collection.PageCounts
import PagedSearch.Proofs.Criteria.Conjunction
import PagedSearch.Proofs.Catalog.Declarations
import PagedSearch.Proofs.Criteria.Comparisons
import PagedSearch.Proofs.Collection.UntypedOrder
import PagedSearch.Proofs.Request.WindowArithmetic
import PagedSearch.Proofs.Sql.Needles
import PagedSearch.Proofs.Calendar.Grammar
import PagedSearch.Proofs.Calendar.Display
import PagedSearch.Proofs.Number.Rounding
import PagedSearch.Proofs.Number.Literal
import PagedSearch.Proofs.Number.Shortest
import PagedSearch.Proofs.Number.Grammar
import PagedSearch.Proofs.Number.ReadBack
import PagedSearch.Proofs.Value.Scalars
import PagedSearch.Proofs.Text.Order
import PagedSearch.Proofs.Text.Words
import PagedSearch.Proofs.Calendar.DisplayOrder
import PagedSearch.Proofs.Number.Nearest
import PagedSearch.Proofs.Value.LiteralKinds
import PagedSearch.Proofs.Value.Decimals
import PagedSearch.Proofs.Number.Roundings
import PagedSearch.Proofs.Number.Arithmetic
import PagedSearch.Proofs.Json.Scaled
import PagedSearch.Proofs.Json.Doubles
import PagedSearch.Proofs.Value.NumberTexts
import PagedSearch.Proofs.Filter.OperatorTexts
import PagedSearch.Proofs.Request.Repaired
import PagedSearch.Proofs.Settings.Environment
import PagedSearch.Proofs.Criteria.WellTyped
